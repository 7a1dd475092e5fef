/-
# The words for kinds

The words by which documents name the kinds of states and choices, and the values of the other
enumerations.
-/

import WorkflowKit.Workflow

namespace WorkflowKit

/-- The word for an action mode. -/
def ActionMode.text : ActionMode → String
  | .sequential => "SEQUENTIAL"
  | .parallel => "PARALLEL"

/-- The action modes. -/
def ActionMode.all : List ActionMode := [.sequential, .parallel]

/-- The word for an end status. -/
def EndStatus.text : EndStatus → String
  | .success => "SUCCESS"
  | .failure => "FAILURE"

/-- The end statuses. -/
def EndStatus.all : List EndStatus := [.success, .failure]

/-- The word for a comparison. -/
def Operator.text : Operator → String
  | .eq => "EQ"
  | .lt => "LT"
  | .lteq => "LTEQ"
  | .gt => "GT"
  | .gteq => "GTEQ"

/-- The comparisons. -/
def Operator.all : List Operator := [.eq, .lt, .lteq, .gt, .gteq]

/-- The word for a kind of state. -/
def StateKind.text : StateKind → String
  | .event => "EVENT"
  | .operation => "OPERATION"
  | .switch => "SWITCH"
  | .delay => "DELAY"
  | .parallel => "PARALLEL"
  | .finish => "END"
  | .subflow => "SUBFLOW"

/-- The kinds of states. -/
def StateKind.all : List StateKind :=
  [.event, .operation, .switch, .delay, .parallel, .finish, .subflow]

/-- The word for a kind of choice. -/
def ChoiceKind.text : ChoiceKind → String
  | .single => "SINGLE"
  | .all => "AND"
  | .any => "OR"
  | .none => "NOT"

/-- The kinds of choices. -/
def ChoiceKind.every : List ChoiceKind := [.single, .all, .any, .none]

/-- The value of an enumeration that a word stands for. -/
def named? {α : Type} (text : α → String) (all : List α) (s : Text) : Option α :=
  all.find? fun a => .ofString (text a) == s

end WorkflowKit
