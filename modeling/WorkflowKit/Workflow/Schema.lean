/-
# The schema of workflow documents

What the canonical form of a workflow has to look like.  Keys that are not mentioned are free.
A workflow has a name, and at least one of its states is marked as a start.
-/

import WorkflowKit.Schema.Violation
import WorkflowKit.Workflow.Kind

namespace WorkflowKit
namespace Schema

/-- The parts of workflow documents that have a schema of their own. -/
inductive PartName
  /-- A trigger. -/
  | trigger
  /-- A function. -/
  | function
  /-- A retry declaration. -/
  | retry
  /-- An action. -/
  | action
  /-- An action mode. -/
  | actionMode
  /-- An event condition. -/
  | event
  /-- A comparison. -/
  | singleChoice
  /-- A choice. -/
  | choice
  /-- A branch. -/
  | branch
  /-- A state. -/
  | state
  deriving DecidableEq, Repr

/-- A part with a schema that has no name. -/
def part (rules : List (Rule PartName)) : Target PartName := .own (ofRules rules)

/-- A text. -/
def textPart : Target PartName := part [.kind .text]

/-- A truth value. -/
def truthPart : Target PartName := part [.kind .truth]

/-- An integer that is not negative. -/
def countPart : Target PartName := part [.kind .integer, .atLeast 0]

/-- One of some words. -/
def wordPart (words : List String) : Target PartName := part [.oneOf words]

/-- A list of parts. -/
def listPart (name : PartName) : Target PartName := part [.kind .list, .items (.named name)]

/-- A mapping to texts. -/
def textsPart : Target PartName := part [.kind .mapping, .everyField textPart]

/-- A mapping with fields. -/
def recordRules (fs : List (String × Target PartName)) : List (Rule PartName) :=
  [.kind .mapping, .fields fs]

/-- A mapping with fields, one of which has to be there. -/
def recordWith (key : String) (fs : List (String × Target PartName)) : List (Rule PartName) :=
  [.kind .mapping, .required [key], .fields fs]

/-- The schemas of the parts. -/
def ofPart : PartName → Schema PartName
  | .trigger => ofRules <| recordRules
    [("name", textPart), ("source", textPart), ("type", textPart),
      ("correlation-token", textPart)]
  | .function => ofRules <| recordRules
    [("name", textPart), ("type", textPart), ("parameters", textsPart)]
  | .retry => ofRules <| recordRules
    [("match", textPart), ("max-retry", countPart), ("retry-interval", countPart),
      ("next-state", textPart)]
  | .action => ofRules <| recordRules
    [("function", .named .function), ("timeout", countPart), ("retry", .named .retry)]
  | .actionMode => ofRules [.kind .text, .oneOf (ActionMode.all.map ActionMode.text)]
  | .event => ofRules <| recordRules
    [("event-expression", textPart), ("next-state", textPart),
      ("action-mode", .named .actionMode), ("timeout", countPart), ("actions", listPart .action)]
  | .singleChoice => ofRules <| recordRules
    [("type", part [.fixed (.text ChoiceKind.single.text)]), ("path", textPart),
      ("value", textPart), ("operator", wordPart (Operator.all.map Operator.text)),
      ("next-state", textPart)]
  | .choice => ofRules <| recordWith "type"
    [("type", wordPart (ChoiceKind.every.map ChoiceKind.text)), ("and", listPart .singleChoice),
      ("or", listPart .singleChoice), ("not", .named .singleChoice), ("next-state", textPart)]
  | .branch => ofRules <| recordRules
    [("name", textPart), ("states", listPart .state), ("wait-for-completion", truthPart)]
  | .state => ofRules <| recordWith "type"
    [("name", textPart), ("type", wordPart (StateKind.all.map StateKind.text)),
      ("start", truthPart), ("end", truthPart), ("next-state", textPart),
      ("action-mode", .named .actionMode), ("events", listPart .event),
      ("actions", listPart .action),
      ("filter", part (recordRules
        [("input-path", textPart), ("result-path", textPart), ("output-path", textPart)])),
      ("choices", listPart .choice), ("default", textPart), ("time-delay", countPart),
      ("status", wordPart (EndStatus.all.map EndStatus.text)), ("workflow-id", textPart),
      ("version", textPart), ("wait-for-completion", truthPart), ("branches", listPart .branch)]

/-- The rules for the fields of a workflow. -/
def workflowRules : List (Rule PartName) := recordWith "name"
  [("id", textPart), ("name", textPart), ("version", textPart), ("starts-at", textPart),
    ("trigger-defs", listPart .trigger), ("states", listPart .state), ("metadata", textsPart),
    ("extensions", part [.kind .list,
      .items (part (recordWith "extensionid" [("extensionid", textPart)]))])]

/-- The notice for a workflow without a start. -/
def noStartNotice : String := "Workflow does not define a start state"

/-- A mapping that is marked as a start. -/
def startPart : Target PartName :=
  part (recordWith "start" [("start", part [.fixed (.truth true)])])

/-- The rules for the start of a workflow. -/
def startRules : List (Rule PartName) :=
  [.required ["states"],
    .fields [("states", .own (.mk [.mk (some noStartNotice) [.holds startPart]]))]]

/-- The schema of workflows. -/
def ofWorkflow : Schema PartName :=
  .mk [.mk none workflowRules, .mk (some noStartNotice) startRules]

/-- What is wrong with the document of a workflow. -/
def workflowViolations (v : Value) : List Violation := violations ofPart v ofWorkflow

end Schema
end WorkflowKit
