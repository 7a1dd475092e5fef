/-
# Reading the parts of a workflow

Triggers, actions, events and choices: the records that hold no states.
-/

import WorkflowKit.Decode.Record
import WorkflowKit.Workflow.Kind

namespace WorkflowKit
namespace Decode

/-- The field `next-state`. -/
def nextState : FieldName := ⟨"next-state", "next_state"⟩

/-- The field `action-mode`. -/
def actionMode : FieldName := ⟨"action-mode", "action_mode"⟩

/-- The field `wait-for-completion`. -/
def waitForCompletion : FieldName := ⟨"wait-for-completion", "wait_for_completion"⟩

/-- A trigger. -/
def trigger : Decoder Trigger :=
  record "TriggerEvent" (Trigger.mk
    <$> maybe (same "name") text
    <*> maybe (same "source") text
    <*> maybe (same "type") text
    <*> maybe ⟨"correlation-token", "correlation_token"⟩ text)

/-- A reference to a function. -/
def function : Decoder Function :=
  record "Function" (Function.mk
    <$> maybe (same "name") text
    <*> maybe (same "type") text
    <*> withDefault (same "parameters") .empty texts)

/-- How often an action is tried again. -/
def retry : Decoder Retry :=
  record "Retry" (Retry.mk
    <$> maybe (same "match") text
    <*> maybe ⟨"max-retry", "max_retry"⟩ natural
    <*> maybe ⟨"retry-interval", "retry_interval"⟩ natural
    <*> maybe nextState text)

/-- The call of a function. -/
def action : Decoder Action :=
  record "Action" (Action.mk
    <$> maybe (same "function") function
    <*> maybe (same "timeout") natural
    <*> maybe (same "retry") retry)

/-- Data paths. -/
def filter : Decoder Filter :=
  record "Filter" (Filter.mk
    <$> maybe ⟨"input-path", "input_path"⟩ text
    <*> maybe ⟨"result-path", "result_path"⟩ text
    <*> maybe ⟨"output-path", "output_path"⟩ text)

/-- How actions are performed. -/
def mode : Decoder ActionMode := oneOf ActionMode.text ActionMode.all

/-- An event condition with its actions. -/
def event : Decoder Event :=
  record "Event" (Event.mk
    <$> maybe ⟨"event-expression", "event_expression"⟩ text
    <*> maybe nextState text
    <*> withDefault actionMode .sequential mode
    <*> maybe (same "timeout") natural
    <*> withDefault (same "actions") [] (list action))

/-- The kind of a record that is known: it may be given, and must then be the known one. -/
def knownKind (word : String) : Fields Unit :=
  withDefault (same "type") () (Decode.word word)

/-- One comparison. -/
def singleChoice : Decoder SingleChoice :=
  record "SingleChoice" ((fun _ path value operator next => ⟨path, value, operator, next⟩)
    <$> knownKind ChoiceKind.single.text
    <*> maybe (same "path") text
    <*> maybe (same "value") text
    <*> maybe (same "operator") (oneOf Operator.text Operator.all)
    <*> maybe nextState text)

/-- A choice whose comparisons must all hold. -/
def allChoice : Decoder Choice :=
  record "AndChoice" ((fun _ cs next => .all cs next)
    <$> knownKind ChoiceKind.all.text
    <*> withDefault ⟨"and", "and_"⟩ [] (list singleChoice)
    <*> maybe nextState text)

/-- A choice of whose comparisons one must hold. -/
def anyChoice : Decoder Choice :=
  record "OrChoice" ((fun _ cs next => .any cs next)
    <$> knownKind ChoiceKind.any.text
    <*> withDefault ⟨"or", "or_"⟩ [] (list singleChoice)
    <*> maybe nextState text)

/-- A choice whose comparison must not hold. -/
def noneChoice : Decoder Choice :=
  record "NotChoice" ((fun _ c next => .none c next)
    <$> knownKind ChoiceKind.none.text
    <*> maybe ⟨"not", "not_"⟩ singleChoice
    <*> maybe nextState text)

/-- A choice of any kind. -/
def choice : Decoder Choice :=
  tagged ChoiceKind.text ChoiceKind.every fun
    | .single => fun d => .single <$> singleChoice d
    | .all => allChoice
    | .any => anyChoice
    | .none => noneChoice

end Decode
end WorkflowKit
