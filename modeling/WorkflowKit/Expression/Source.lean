/-
# The value of an expression text

An expression text is brought into normal form and read as a tree, which is then evaluated.

Trees that are too deep have no value: `overrun?` follows the evaluation of a tree and finds the
first place that lies too deep.  What is not evaluated may be as deep as it likes.

Counted are the levels of the parts of a tree, with one level to tell the kind of a part.  To tell
whether a value has attributes takes some levels more, and how many depends on whether a value of
its kind has been met before; these are not counted.  So an attribute that is reached with less than
six levels left may be too deep where `overrun?` finds nothing.
-/

import WorkflowKit.Expression.Evaluation
import WorkflowKit.Expression.Grammar
import WorkflowKit.Expression.Normal

namespace WorkflowKit
namespace Expression

/-- A fault if no level is left below a part whose kind is still to be told. -/
def kindFault? (room : Nat) : Option DepthFault :=
  if room = 0 then some .kindOfPart else none

mutual

/-- The fault of the first place at which the evaluation of a tree comes to more than `room`
levels. -/
def overrun? (vars : Variables) : Nat → Expr → Option DepthFault
  | 0, _ => some .evaluation
  | room + 1, .constant _ => kindFault? room
  | _ + 1, .name _ => none
  | room + 1, .all es => overrunOperands? vars (room - 2) true es
  | room + 1, .any es => overrunOperands? vars (room - 2) false es
  | room + 1, .signed _ e => overrun? vars room e
  | room + 1, .compare e rest =>
    overrun? vars (room - 1) e <|>
      match eval vars e with
      | .ok v => overrunChain? vars (room - 1) v rest
      | .error _ => none
  | room + 1, .list es => kindFault? room <|> overrunItems? vars (room - 1) es
  | room + 1, .tuple es => kindFault? room <|> overrunItems? vars (room - 1) es
  | room + 1, .member e _ => kindFault? room <|> overrun? vars room e
  | room + 1, .call (.member e name) es [] =>
    kindFault? room <|>
      if (method? name).isNone then none
      else overrun? vars (room - 1) e <|>
        match eval vars e with
        | .ok (.text _) => overrunItems? vars (room - 2) es
        | _ => none
  | room + 1, .call _ _ _ => kindFault? room
  | room + 1, .other _ _ => kindFault? room

/-- The fault of the first operand that is evaluated and too deep; the first operand that is not
`going` ends the evaluation. -/
def overrunOperands? (vars : Variables) (room : Nat) (going : Bool) :
    List Expr → Option DepthFault
  | [] => none
  | e :: es =>
    overrun? vars room e <|>
      match eval vars e with
      | .ok v => if v.isTruthy == going then overrunOperands? vars room going es else none
      | .error _ => none

/-- The fault of the first operand of a chain that is evaluated and too deep, where the operand
before it has the value `left`. -/
def overrunChain? (vars : Variables) (room : Nat) (left : Value) :
    List (Comparison × Expr) → Option DepthFault
  | [] => none
  | (c, e) :: rest =>
    match c.test? with
    | none => none
    | some test =>
      overrun? vars room e <|>
        match eval vars e with
        | .ok right =>
          match compareValues c test left right with
          | .ok true => overrunChain? vars room right rest
          | _ => none
        | .error _ => none

/-- The fault of the first item that is evaluated and too deep. -/
def overrunItems? (vars : Variables) (room : Nat) : List Expr → Option DepthFault
  | [] => none
  | e :: es =>
    overrun? vars room e <|>
      match eval vars e with
      | .ok _ => overrunItems? vars room es
      | .error _ => none

end

/-- The tree of an expression text. -/
def compile (source : String) : Except Fault Expr :=
  let cs := normalChars source.toList
  if cs.contains '\x00' then .error .nullCharacter
  else match tree? cs with
    | none => .error .invalid
    | some e =>
      if readingLimit < e.levels then .error (.depth .reading)
      else if heightLimit < e.height then .error (.depth .tree)
      else .ok e

/-- The value of an expression text.  Each part of a tree takes at most four levels. -/
def evaluate (vars : Variables) (source : String) : Outcome := do
  let e ← compile source
  if evaluationLimit < 4 * e.height then
    match overrun? vars evaluationLimit e with
    | some f => .error (.depth f)
    | none => eval vars e
  else eval vars e

end Expression
end WorkflowKit
