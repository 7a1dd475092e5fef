/-
# Evaluating expressions

The value of an expression tree, where variables have the values of a table.

* `and` and `or` stop at the first operand that decides, and give a truth value.
* A chain of comparisons stops at the first one that fails.  An operand is evaluated once.
* Methods are called on texts only.  An attribute is an entry of a mapping.
* Whether a form is supported shows only when the form is reached.

A fault holds whatever its wording depends on.  The wording of three of them goes on behind a colon
in words that are not modelled: why a text is no expression, why two values cannot be compared, and
why arguments do not fit.  It follows from what the fault holds and from the text.
-/

import WorkflowKit.Expression.Depth
import WorkflowKit.Expression.Method

namespace WorkflowKit
namespace Expression

/-- Why an expression has no value. -/
inductive Fault
  /-- The text holds a null character. -/
  | nullCharacter
  /-- The text is no expression. -/
  | invalid
  /-- A variable has no value. -/
  | unknownVariable (name : String)
  /-- A value has no such attribute. -/
  | unknownAttribute (name : String)
  /-- There is no such method. -/
  | unknownMethod (name : String)
  /-- A method is called on something else than a text. -/
  | notText (method : String) (target : Value)
  /-- Two values cannot be compared in this way. -/
  | incomparable (comparison : Comparison) (left right : Value)
  /-- The arguments of a method do not fit. -/
  | badArguments (method : String) (arguments : List Value)
  /-- A form without a value is reached. -/
  | unsupported (what : String)
  /-- A value holds an integer that is too long to be written. -/
  | digits (fault : Number.DigitFault)
  /-- The expression is nested too deep. -/
  | depth (fault : DepthFault)
  deriving Repr

/-- The wording of a fault of the expression `source`. -/
def Fault.message (source : String) : Fault → String
  | nullCharacter => "source code string cannot contain null bytes"
  | invalid => "Invalid expression \x27" ++ source ++ "\x27"
  | unknownVariable x => "Unknown variable: " ++ x
  | unknownAttribute a => "Unknown attribute: " ++ a
  | unknownMethod m => "Unsupported method: " ++ m
  | notText m v => "Method " ++ m ++ " called on non-string " ++ v.display
  | incomparable _ v w => "Cannot compare " ++ v.display ++ " and " ++ w.display
  | badArguments m _ => "Bad arguments for " ++ m
  | unsupported what => "Unsupported syntax: " ++ what
  | digits f => f.message
  | depth f => f.message

/-- The error of an expression without a value: what it says, and the text of the expression. -/
structure EvaluationError where
  /-- The wording. -/
  message : String
  /-- The text of the expression. -/
  expression : String
  deriving DecidableEq, Repr

/-- The error that a fault of the expression `source` is reported as.  Three kinds of faults are not
reported but surface as they are: a null character, an integer that is too long to be written, and
too many levels. -/
def Fault.error? (source : String) : Fault → Option EvaluationError
  | nullCharacter | digits _ | depth _ => none
  | f => some ⟨f.message source, source⟩

/-- What the evaluation of an expression leads to. -/
abbrev Outcome := Except Fault Value

/-- The values of variables. -/
abbrev Variables := List (String × Value)

/-- The value of a constant. -/
def Constant.value : Constant → Outcome
  | null => .ok .null
  | bool b => .ok (.bool b)
  | int n => .ok (.int n)
  | float x => .ok (.float x)
  | text s => .ok (.text s)
  | _ => .error (.unsupported "Constant")

/-- The value of a sign before an operand. -/
def Sign.value : Sign → Value → Outcome
  | not, v => .ok (.bool !v.isTruthy)
  | minus, .bool b => .ok (.int (if b then -1 else 0))
  | minus, .int n => .ok (.int (-n))
  | minus, .float x => .ok (.float x.neg)
  | _, _ => .error (.unsupported "UnaryOp")

/-- A fault about two values, unless they cannot be shown. -/
def incomparableFault (c : Comparison) (v w : Value) : Fault :=
  if v.holdsLongInt || w.holdsLongInt then .digits .writing else .incomparable c v w

/-- A fault about the target of a method, unless it cannot be shown. -/
def notTextFault (method : String) (v : Value) : Fault :=
  if v.holdsLongInt then .digits .writing else .notText method v

/-- What a supported comparison computes; `none` for two values that cannot be compared. -/
def Comparison.test? : Comparison → Option (Value → Value → Option Bool)
  | eq => some fun v w => some (v.equal w)
  | ne => some fun v w => some !(v.equal w)
  | lt => some (Value.test? .lt)
  | le => some (Value.test? .le)
  | gt => some (Value.test? .gt)
  | ge => some (Value.test? .ge)
  | isIn => some Value.member?
  | notIn => some fun v w => (v.member? w).map (!·)
  | same => none
  | notSame => none

/-- The name of a comparison that is not supported. -/
def Comparison.unsupportedName : Comparison → String
  | notSame => "IsNot"
  | _ => "Is"

/-- The outcome of a comparison that computes `test`. -/
def compareValues (c : Comparison) (test : Value → Value → Option Bool) (v w : Value) :
    Except Fault Bool :=
  match test v w with
  | some b => .ok b
  | none => .error (incomparableFault c v w)

/-- The attribute of a value. -/
def attributeOf (v : Value) (name : String) : Outcome :=
  match v with
  | .map es =>
    match lookup? (.ofString name) es with
    | some w => .ok w
    | none => .error (.unknownAttribute name)
  | _ => .error (.unknownAttribute name)

/-- The value of a method that is called on a value, with the outcome of its arguments. -/
def callMethod (name : String) (m : Method) (target : Value) (args : Except Fault (List Value)) :
    Outcome :=
  match target with
  | .text s => do
    let vs ← args
    match m.call s vs with
    | .ok v => .ok v
    | .error .badArguments => .error (.badArguments name vs)
    | .error (.digits f) => .error (.digits f)
  | v => .error (notTextFault name v)

mutual

/-- The value of a tree. -/
def eval (vars : Variables) : Expr → Outcome
  | .constant c => c.value
  | .name x =>
    match lookup? x vars with
    | some v => .ok v
    | none => .error (.unknownVariable x)
  | .all es => .bool <$> evalAll vars es
  | .any es => .bool <$> evalAny vars es
  | .signed s e => do s.value (← eval vars e)
  | .compare e rest => do .bool <$> evalChain vars (← eval vars e) rest
  | .list es => .list <$> evalItems vars es
  | .tuple es => .list <$> evalItems vars es
  | .member e name => do attributeOf (← eval vars e) name
  | .call (.member e name) es [] =>
    match method? name with
    | none => .error (.unknownMethod name)
    | some m => do callMethod name m (← eval vars e) (evalItems vars es)
  | .call _ _ _ => .error (.unsupported "Call")
  | .other form _ => .error (.unsupported form.name)

/-- Whether all operands are true. -/
def evalAll (vars : Variables) : List Expr → Except Fault Bool
  | [] => .ok true
  | e :: es => do
    if (← eval vars e).isTruthy then evalAll vars es else .ok false

/-- Whether an operand is true. -/
def evalAny (vars : Variables) : List Expr → Except Fault Bool
  | [] => .ok false
  | e :: es => do
    if (← eval vars e).isTruthy then .ok true else evalAny vars es

/-- Whether all comparisons of a chain hold, where the operand before it has the value `left`. -/
def evalChain (vars : Variables) (left : Value) : List (Comparison × Expr) → Except Fault Bool
  | [] => .ok true
  | (c, e) :: rest =>
    match c.test? with
    | none => .error (.unsupported c.unsupportedName)
    | some test => do
      let right ← eval vars e
      if ← compareValues c test left right then evalChain vars right rest else .ok false

/-- The values of several trees. -/
def evalItems (vars : Variables) : List Expr → Except Fault (List Value)
  | [] => .ok []
  | e :: es => do
    let v ← eval vars e
    let vs ← evalItems vars es
    .ok (v :: vs)

end

end Expression
end WorkflowKit
