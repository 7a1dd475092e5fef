/-
# Editing single fields

Sets one field of a part of a workflow.  A path leads to the field: names of fields, which are
written with underscores, and indexes of items, counted from the end if they are negative.  The new
value is taken as it is, without the checks of reading.

A path that leads nowhere and a value that the field cannot hold change nothing.
-/

import WorkflowKit.Decode.Fault
import WorkflowKit.Workflow.Kind

namespace WorkflowKit
namespace Edit

open Decode (Step)

/-! ## Values of fields -/

/-- A text or nothing. -/
def text (v : Value) (old : Option Text) : Option Text :=
  match v with
  | .text s => some s
  | .null => none
  | _ => old

/-- An integer or nothing. -/
def int (v : Value) (old : Option Int) : Option Int :=
  match v with
  | .int n => some n
  | .null => none
  | _ => old

/-- A truth value. -/
def truth (v : Value) (old : Bool) : Bool :=
  match v with
  | .bool b => b
  | _ => old

/-- A value of an enumeration. -/
def word {α : Type} (name : α → String) (all : List α) (v : Value) (old : α) : α :=
  match v with
  | .text s => (named? name all s).getD old
  | _ => old

/-- A mapping to texts. -/
def texts (v : Value) (old : TextMap) : TextMap :=
  match v with
  | .map es => .ofEntries (es.filterMap fun e => match e.2 with
    | .text s => some (e.1, s)
    | _ => none)
  | _ => old

/-- A list that is emptied. -/
def emptied {α : Type} (v : Value) (old : List α) : List α :=
  match v with
  | .list [] => []
  | _ => old

/-- A part that is dropped. -/
def dropped {α : Type} (v : Value) (old : Option α) : Option α :=
  match v with
  | .null => none
  | _ => old

/-- One item of a list. -/
def item {α : Type} (n : Int) (f : α → α) (as : List α) : List α :=
  let n := if n < 0 then n + as.length else n
  if n < 0 then as else as.modify n.toNat f

/-! ## Parts -/

/-- A field of a trigger. -/
def trigger (path : List Step) (v : Value) (t : Trigger) : Trigger :=
  match path with
  | [.key "name"] => { t with name := text v t.name }
  | [.key "source"] => { t with source := text v t.source }
  | [.key "type"] => { t with type := text v t.type }
  | [.key "correlation_token"] => { t with correlationToken := text v t.correlationToken }
  | _ => t

/-- A field of a function. -/
def function (path : List Step) (v : Value) (f : Function) : Function :=
  match path with
  | [.key "name"] => { f with name := text v f.name }
  | [.key "type"] => { f with type := text v f.type }
  | [.key "parameters"] => { f with parameters := texts v f.parameters }
  | _ => f

/-- A field of a retry declaration. -/
def retry (path : List Step) (v : Value) (r : Retry) : Retry :=
  match path with
  | [.key "match"] => { r with condition := text v r.condition }
  | [.key "max_retry"] => { r with maxRetry := int v r.maxRetry }
  | [.key "retry_interval"] => { r with retryInterval := int v r.retryInterval }
  | [.key "next_state"] => { r with nextState := text v r.nextState }
  | _ => r

/-- A field of an action. -/
def action (path : List Step) (v : Value) (a : Action) : Action :=
  match path with
  | [.key "function"] => { a with function := dropped v a.function }
  | .key "function" :: rest => { a with function := a.function.map (function rest v) }
  | [.key "timeout"] => { a with timeout := int v a.timeout }
  | [.key "retry"] => { a with retry := dropped v a.retry }
  | .key "retry" :: rest => { a with retry := a.retry.map (retry rest v) }
  | _ => a

/-- A field among some actions. -/
def actions (path : List Step) (v : Value) (as : List Action) : List Action :=
  match path with
  | [] => emptied v as
  | .index i :: rest => item i (action rest v) as
  | _ => as

/-- A field of data paths. -/
def filter (path : List Step) (v : Value) (f : Filter) : Filter :=
  match path with
  | [.key "input_path"] => { f with inputPath := text v f.inputPath }
  | [.key "result_path"] => { f with resultPath := text v f.resultPath }
  | [.key "output_path"] => { f with outputPath := text v f.outputPath }
  | _ => f

/-- A field of an event condition. -/
def event (path : List Step) (v : Value) (e : Event) : Event :=
  match path with
  | [.key "event_expression"] => { e with expression := text v e.expression }
  | [.key "next_state"] => { e with nextState := text v e.nextState }
  | [.key "action_mode"] =>
    { e with actionMode := word ActionMode.text ActionMode.all v e.actionMode }
  | [.key "timeout"] => { e with timeout := int v e.timeout }
  | .key "actions" :: rest => { e with actions := actions rest v e.actions }
  | _ => e

/-- A field of a comparison. -/
def singleChoice (path : List Step) (v : Value) (c : SingleChoice) : SingleChoice :=
  match path with
  | [.key "path"] => { c with path := text v c.path }
  | [.key "value"] => { c with value := text v c.value }
  | [.key "operator"] => match v with
    | .null => { c with operator := none }
    | .text s => { c with operator := (named? Operator.text Operator.all s).or c.operator }
    | _ => c
  | [.key "next_state"] => { c with nextState := text v c.nextState }
  | _ => c

/-- A field among some comparisons. -/
def singleChoices (path : List Step) (v : Value) (cs : List SingleChoice) : List SingleChoice :=
  match path with
  | [] => emptied v cs
  | .index i :: rest => item i (singleChoice rest v) cs
  | _ => cs

/-- A field of a choice. -/
def choice (path : List Step) (v : Value) (c : Choice) : Choice :=
  match c, path with
  | .single c, _ => .single (singleChoice path v c)
  | .all cs next, [.key "next_state"] => .all cs (text v next)
  | .all cs next, .key "and_" :: rest => .all (singleChoices rest v cs) next
  | .any cs next, [.key "next_state"] => .any cs (text v next)
  | .any cs next, .key "or_" :: rest => .any (singleChoices rest v cs) next
  | .none c next, [.key "next_state"] => .none c (text v next)
  | .none c next, [.key "not_"] => .none (dropped v c) next
  | .none c next, .key "not_" :: rest => .none (c.map (singleChoice rest v)) next
  | c, _ => c

/-- A field that all kinds of states have. -/
def head (path : List Step) (v : Value) (h : StateHead) : StateHead :=
  match path with
  | [.key "name"] => { h with name := text v h.name }
  | [.key "start"] => { h with start := truth v h.start }
  | [.key "end"] => { h with final := truth v h.final }
  | _ => h

/-- The state with another head. -/
def withHead (f : StateHead → StateHead) : State → State
  | .event h es => .event (f h) es
  | .operation h m as next flt => .operation (f h) m as next flt
  | .switch h cs fallback => .switch (f h) cs fallback
  | .delay h n next => .delay (f h) n next
  | .parallel h bs next => .parallel (f h) bs next
  | .finish h s => .finish (f h) s
  | .subflow h i v w => .subflow (f h) i v w

/-- A field of a state that belongs to its kind, branches apart. -/
def stateField (path : List Step) (v : Value) (s : State) : State :=
  match s, path with
  | .event h es, [.key "events"] => .event h (emptied v es)
  | .event h es, .key "events" :: .index i :: rest => .event h (item i (event rest v) es)
  | .operation h m as next f, [.key "action_mode"] =>
    .operation h (word ActionMode.text ActionMode.all v m) as next f
  | .operation h m as next f, .key "actions" :: rest =>
    .operation h m (actions rest v as) next f
  | .operation h m as next f, [.key "next_state"] => .operation h m as (text v next) f
  | .operation h m as next f, [.key "filter"] => .operation h m as next (dropped v f)
  | .operation h m as next f, .key "filter" :: rest =>
    .operation h m as next (f.map (filter rest v))
  | .switch h cs fallback, [.key "choices"] => .switch h (emptied v cs) fallback
  | .switch h cs fallback, .key "choices" :: .index i :: rest =>
    .switch h (item i (choice rest v) cs) fallback
  | .switch h cs fallback, [.key "default"] => .switch h cs (text v fallback)
  | .delay h n next, [.key "time_delay"] => .delay h (int v n) next
  | .delay h n next, [.key "next_state"] => .delay h n (text v next)
  | .parallel h bs next, [.key "branches"] => .parallel h (emptied v bs) next
  | .parallel h bs next, [.key "next_state"] => .parallel h bs (text v next)
  | .finish h s, [.key "status"] => .finish h (word EndStatus.text EndStatus.all v s)
  | .subflow h i version w, [.key "workflow_id"] => .subflow h (text v i) version w
  | .subflow h i version w, [.key "version"] => .subflow h i (text v version) w
  | .subflow h i version w, [.key "wait_for_completion"] => .subflow h i version (truth v w)
  | s, _ => s

mutual

/-- A field of a state. -/
def state (path : List Step) (v : Value) (s : State) : State :=
  match path with
  | .key "branches" :: .index i :: rest =>
    match s with
    | .parallel h bs next => .parallel h (item i (branch rest v) bs) next
    | s => s
  | path => withHead (head path v) (stateField path v s)

/-- A field of a branch. -/
def branch (path : List Step) (v : Value) (b : Branch) : Branch :=
  match b, path with
  | .mk name ss w, [.key "name"] => .mk (text v name) ss w
  | .mk name ss w, [.key "states"] => .mk name (emptied v ss) w
  | .mk name ss w, .key "states" :: .index i :: rest => .mk name (item i (state rest v) ss) w
  | .mk name ss w, [.key "wait_for_completion"] => .mk name ss (truth v w)
  | b, _ => b

end

end Edit

/-- Sets the field at the end of a path. -/
def Workflow.edit (w : Workflow) (path : List Decode.Step) (v : Value) : Workflow :=
  match path with
  | [.key "id"] => { w with id := Edit.text v w.id }
  | [.key "name"] => { w with name := Edit.text v w.name }
  | [.key "version"] => { w with version := Edit.text v w.version }
  | [.key "starts_at"] => { w with startsAt := Edit.text v w.startsAt }
  | [.key "trigger_defs"] => { w with triggers := Edit.emptied v w.triggers }
  | .key "trigger_defs" :: .index i :: rest =>
    { w with triggers := Edit.item i (Edit.trigger rest v) w.triggers }
  | [.key "states"] => { w with states := Edit.emptied v w.states }
  | .key "states" :: .index i :: rest =>
    { w with states := Edit.item i (Edit.state rest v) w.states }
  | [.key "metadata"] => { w with metadata := Edit.texts v w.metadata }
  | [.key "extensions"] => { w with extensions := Edit.emptied v w.extensions }
  | _ => w

end WorkflowKit
