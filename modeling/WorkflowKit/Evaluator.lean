/-
# Evaluators

An evaluator decides whether the expression of an event matches a trigger.  It may compute any
value, or none; the expression matches only if the value is the truth value true.

Two evaluators bind the trigger to variables of an expression:

* `attribute` binds its attributes, and the mapping of them all to `trigger`;
* `trigger-name` binds its name to `trigger`.
-/

import WorkflowKit.Expression.Source
import WorkflowKit.Workflow

namespace WorkflowKit

/-- What an expression is evaluated for. -/
inductive Context
  /-- A trigger. -/
  | trigger (t : Trigger)
  /-- The name of a trigger. -/
  | name (s : Text)
  /-- Something else. -/
  | other
  deriving DecidableEq, Repr

/-- An evaluator. -/
structure Evaluator where
  /-- The name. -/
  name : Text
  /-- The value of an expression, if it has one. -/
  value? : Text → Context → Option Value

namespace Evaluator

/-- Whether an expression matches. -/
def accepts (e : Evaluator) (source : Text) (context : Context) : Bool :=
  match e.value? source context with
  | some (.bool b) => b
  | _ => false

/-- Why an evaluator cannot say whether an expression matches: a value that is no truth value is
shown, and this one holds an integer that is too long to be written. -/
def fault? (e : Evaluator) (source : Text) (context : Context) : Option Number.DigitFault :=
  match e.value? source context with
  | none | some (.bool _) => none
  | some v => if v.holdsLongInt then some .writing else none

/-- A text that may be missing, as a value. -/
def optionalText : Option Text → Value
  | some s => .text s
  | none => .null

/-- The attributes of a trigger as variables. -/
def attributes (t : Trigger) : Expression.Variables :=
  [("name", optionalText t.name), ("source", optionalText t.source),
    ("type", optionalText t.type), ("correlation_token", optionalText t.correlationToken),
    ("correlationToken", optionalText t.correlationToken)]

/-- A trigger of which only the name is known. -/
def nameOnly (s : Text) : Trigger := ⟨some s, none, none, none⟩

/-- The attributes and the mapping of them all. -/
def attributeVariables (t : Trigger) : Expression.Variables :=
  attributes t ++ [("trigger", .map ((attributes t).map fun e => (↑e.1, e.2)))]

/-- The value of an expression with some variables, if it has one.  No expression holds a half of
a pair. -/
def valueWith? (source : Text) (vars : Expression.Variables) : Option Value := do
  (Expression.evaluate vars (← source.toString?)).toOption

/-- The evaluator that binds the attributes of the trigger, under a name. -/
def ofAttributes (name : Text) : Evaluator where
  name := name
  value? source
    | .trigger t => valueWith? source (attributeVariables t)
    | .name s => valueWith? source (attributeVariables (nameOnly s))
    | .other => none

/-- The evaluator that binds the name of the trigger, under a name. -/
def ofName (name : Text) : Evaluator where
  name := name
  value? source
    | .trigger t => valueWith? source [("trigger", optionalText t.name)]
    | .name s => valueWith? source [("trigger", .text s)]
    | .other => none

/-- The evaluator that binds the attributes of the trigger. -/
def forAttributes : Evaluator := ofAttributes "attribute"

/-- The evaluator that binds the name of the trigger. -/
def forName : Evaluator := ofName "trigger-name"

end Evaluator
end WorkflowKit
