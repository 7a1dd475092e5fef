/-
# Methods of texts

What can be called on a text: comparisons with another text, parts of a text, and its case.  Some
methods have two names.

`startsWith` and `endsWith` take up to two positions: only the characters between them are looked
at.  A negative position counts from the end.
-/

import WorkflowKit.Text.Case
import WorkflowKit.Value.Order

namespace WorkflowKit
namespace Expression

/-- A method of texts. -/
inductive Method
  /-- Whether the text equals a value. -/
  | equals
  /-- Whether the text equals the text of a value, both in lower case. -/
  | equalsIgnoringCase
  /-- Whether the text begins with another one. -/
  | startsWith
  /-- Whether the text ends with another one. -/
  | endsWith
  /-- Whether another text is part of the text. -/
  | contains
  /-- The text in lower case. -/
  | lower
  /-- The text in upper case. -/
  | upper
  deriving DecidableEq, Repr

/-- The method that a name stands for. -/
def method? (name : String) : Option Method :=
  lookup? name
    [("equals", .equals), ("equalsIgnoreCase", .equalsIgnoringCase),
      ("startswith", .startsWith), ("startsWith", .startsWith),
      ("endswith", .endsWith), ("endsWith", .endsWith), ("contains", .contains),
      ("lower", .lower), ("toLowerCase", .lower), ("upper", .upper), ("toUpperCase", .upper)]

/-- A position in a text of some length; `none` for a value that is no position.  The absent value
stands for `fallback`. -/
def position? (length : Nat) (fallback : Int) : Value → Option Int
  | .null => some fallback
  | .int n => some (fromEnd n)
  | .bool b => some (if b then 1 else 0)
  | _ => none
where
  /-- A negative position counts from the end, but never before the start. -/
  fromEnd (n : Int) : Int := if n < 0 then max 0 (n + length) else n

/-- The positions that are given behind the first argument. -/
def positions? (length : Nat) : List Value → Option (Int × Int)
  | [] => some (0, length)
  | [a] => (position? length 0 a).map fun i => (i, length)
  | [a, b] => do
    let i ← position? length 0 a
    let j ← position? length length b
    some (i, min j length)
  | _ => none

/-- Whether `part` stands at the start of what is between the positions `i` and `j`, or at its
end. -/
def standsAt (atEnd : Bool) (part ps : List CodePoint) (i j : Int) : Bool :=
  if j - part.length < i then false
  else
    let start := if atEnd then j - part.length else i
    part.isPrefixOf (ps.drop start.toNat)

/-- Whether a text begins or ends with its first argument. -/
def standsIn? (atEnd : Bool) (s : Text) : List Value → Option Bool
  | .text part :: rest => do
    let (i, j) ← positions? s.length rest
    some (standsAt atEnd part.points s.points i j)
  | _ => none

/-- Why a method gives no value. -/
inductive CallFault
  /-- The arguments do not fit. -/
  | badArguments
  /-- An argument holds an integer that is too long to be written. -/
  | digits (fault : Number.DigitFault)
  deriving DecidableEq, Repr

/-- The value of a call whose arguments may not fit. -/
def orBadArguments (b : Option Value) : Except CallFault Value :=
  match b with
  | some v => .ok v
  | none => .error .badArguments

/-- The value of a method of the text `s`. -/
def Method.call (m : Method) (s : Text) (args : List Value) : Except CallFault Value :=
  match m, args with
  | equals, [v] => .ok (.bool (Value.equal (.text s) v))
  | equalsIgnoringCase, [v] => do
    let t ← v.tryText.mapError .digits
    .ok (.bool (s.lower == t.lower))
  | startsWith, vs => orBadArguments ((standsIn? false s vs).map .bool)
  | endsWith, vs => orBadArguments ((standsIn? true s vs).map .bool)
  | contains, [v] => orBadArguments ((Value.member? v (.text s)).map .bool)
  | lower, [] => .ok (.text s.lower)
  | upper, [] => .ok (.text s.upper)
  | _, _ => .error .badArguments

end Expression
end WorkflowKit
