/-
# The canonical form

The document that is written for a workflow.  Fields come in a fixed order, those of all states
before those of the kind.  A field that is absent is left out, and so is an empty list or mapping;
a record is written even if nothing of it remains.

A workflow of any depth has a document.  How deep states may be nested for their document to be
made, written as text or checked by a schema is left out; what is modelled is how deep a text may be
nested to be read, and how deep a document may be for its placeholders to be replaced.
-/

import WorkflowKit.Value
import WorkflowKit.Workflow.Kind

namespace WorkflowKit

/-- A field of the canonical form: its key, and its value if it is written. -/
abbrev Member := String × Option Value

namespace Member

/-- A text, if there is one. -/
def text (key : String) (s : Option Text) : Member := (key, s.map .text)

/-- An integer, if there is one. -/
def int (key : String) (n : Option Int) : Member := (key, n.map .int)

/-- A truth value. -/
def bool (key : String) (b : Bool) : Member := (key, some (.bool b))

/-- A word. -/
def word (key : String) (s : Text) : Member := (key, some (.text s))

/-- A record, if there is one. -/
def record {α : Type} (key : String) (document : α → Value) (a : Option α) : Member :=
  (key, a.map document)

/-- A list, unless it is empty. -/
def list (key : String) (vs : List Value) : Member :=
  (key, if vs.isEmpty then none else some (.list vs))

/-- A mapping to texts as it is written: its keys are strings. -/
def writtenTexts (m : TextMap) : List (Text × Value) :=
  distinctEntries (m.entries.map fun e => (.ofString e.1.lossy, .text e.2))

/-- A mapping to texts, unless it is empty. -/
def texts (key : String) (m : TextMap) : Member :=
  (key, if m.entries.isEmpty then none else some (.map (writtenTexts m)))

/-- The entry of a field that is written. -/
def entry? (m : Member) : Option (Text × Value) := m.2.map fun v => (.ofString m.1, v)

end Member

/-- A mapping of the fields that are written. -/
def Value.ofMembers (ms : List Member) : Value := .map (ms.filterMap Member.entry?)

/-- The canonical form of a trigger. -/
def Trigger.document (t : Trigger) : Value := .ofMembers
  [.text "name" t.name, .text "source" t.source, .text "type" t.type,
    .text "correlation-token" t.correlationToken]

/-- The canonical form of a function. -/
def Function.document (f : Function) : Value := .ofMembers
  [.text "name" f.name, .text "type" f.type, .texts "parameters" f.parameters]

/-- The canonical form of a retry declaration. -/
def Retry.document (r : Retry) : Value := .ofMembers
  [.text "match" r.condition, .int "max-retry" r.maxRetry,
    .int "retry-interval" r.retryInterval, .text "next-state" r.nextState]

/-- The canonical form of an action. -/
def Action.document (a : Action) : Value := .ofMembers
  [.record "function" Function.document a.function, .int "timeout" a.timeout,
    .record "retry" Retry.document a.retry]

/-- The canonical form of data paths. -/
def Filter.document (f : Filter) : Value := .ofMembers
  [.text "input-path" f.inputPath, .text "result-path" f.resultPath,
    .text "output-path" f.outputPath]

/-- The canonical form of an event condition. -/
def Event.document (e : Event) : Value := .ofMembers
  [.text "event-expression" e.expression, .text "next-state" e.nextState,
    .word "action-mode" e.actionMode.text, .int "timeout" e.timeout,
    .list "actions" (e.actions.map Action.document)]

/-- The canonical form of a comparison. -/
def SingleChoice.document (c : SingleChoice) : Value := .ofMembers
  [.word "type" ChoiceKind.single.text, .text "path" c.path, .text "value" c.value,
    .text "operator" (c.operator.map fun o => o.text), .text "next-state" c.nextState]

/-- The canonical form of a choice. -/
def Choice.document : Choice → Value
  | .single c => c.document
  | .all cs next => .ofMembers
    [.word "type" ChoiceKind.all.text, .list "and" (cs.map SingleChoice.document),
      .text "next-state" next]
  | .any cs next => .ofMembers
    [.word "type" ChoiceKind.any.text, .list "or" (cs.map SingleChoice.document),
      .text "next-state" next]
  | .none c next => .ofMembers
    [.word "type" ChoiceKind.none.text, .record "not" SingleChoice.document c,
      .text "next-state" next]

/-- The fields that all kinds of states have. -/
def StateHead.members (h : StateHead) (kind : StateKind) : List Member :=
  [.text "name" h.name, .word "type" kind.text, .bool "start" h.start, .bool "end" h.final]

/-- The canonical form of a state of no particular kind. -/
def BareState.document (s : BareState) : Value := .ofMembers (s.head.members s.kind)

namespace State

mutual

/-- The canonical form of a state. -/
def document : State → Value
  | event h es => .ofMembers
    (h.members .event ++ [.list "events" (es.map Event.document)])
  | operation h m as next f => .ofMembers
    (h.members .operation ++
      [.word "action-mode" m.text, .list "actions" (as.map Action.document),
        .text "next-state" next, .record "filter" Filter.document f])
  | switch h cs fallback => .ofMembers
    (h.members .switch ++
      [.list "choices" (cs.map Choice.document), .text "default" fallback])
  | delay h n next => .ofMembers
    (h.members .delay ++ [.int "time-delay" n, .text "next-state" next])
  | parallel h bs next => .ofMembers
    (h.members .parallel ++
      [.list "branches" (branchDocuments bs), .text "next-state" next])
  | finish h s => .ofMembers
    (h.members .finish ++ [.word "status" s.text])
  | subflow h i v w => .ofMembers
    (h.members .subflow ++
      [.text "workflow-id" i, .text "version" v, .bool "wait-for-completion" w])

/-- The canonical form of a branch. -/
def branchDocument : Branch → Value
  | .mk name states waits => .ofMembers
    [.text "name" name, .list "states" (documents states), .bool "wait-for-completion" waits]

/-- The canonical forms of states. -/
def documents : List State → List Value
  | [] => []
  | s :: ss => document s :: documents ss

/-- The canonical forms of branches. -/
def branchDocuments : List Branch → List Value
  | [] => []
  | b :: bs => branchDocument b :: branchDocuments bs

end

end State

/-- The canonical form of a branch. -/
def Branch.document (b : Branch) : Value := State.branchDocument b

/-- A field of an extension record. -/
def ExtensionValue.member (key : String) : ExtensionValue → Member
  | .text s => .word key s
  | .int n => .int key (some n)
  | .optionalText s => .text key s
  | .texts m => .texts key m
  | .items ss => .list key (ss.map .text)
  | .filter f => .record key Filter.document f

/-- The canonical form of an extension record. -/
def Extension.document (e : Extension) : Value := .ofMembers
  (.word "extensionid" e.id :: e.fields.map fun f => f.2.member f.1)

/-- The canonical form of a workflow. -/
def Workflow.document (w : Workflow) : Value := .ofMembers
  [.text "id" w.id, .text "name" w.name, .text "version" w.version,
    .text "starts-at" w.startsAt, .list "trigger-defs" (w.triggers.map Trigger.document),
    .list "states" (State.documents w.states), .texts "metadata" w.metadata,
    .list "extensions" (w.extensions.map Extension.document)]

end WorkflowKit
