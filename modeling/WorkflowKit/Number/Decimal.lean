/-
# Integers as decimal text

An integer is written with a minus sign and its decimal digits.  Reading and writing stop at 4300
digits: both take quadratic time, and a document may come from anywhere.
-/

namespace WorkflowKit
namespace Number

/-- The greatest number of decimal digits that is read or written. -/
def digitLimit : Nat := 4300

/-- The decimal digits of a natural number. -/
def natText (n : Nat) : List Char :=
  Nat.toDigits 10 n

/-- An integer in decimal notation. -/
def intText (n : Int) : List Char :=
  if n < 0 then '-' :: natText n.natAbs else natText n.natAbs

/-- Whether an integer has more decimal digits than may be written. -/
def exceedsDigitLimit (n : Int) : Bool :=
  decide (Nat.pow 10 digitLimit ≤ n.natAbs)

/-- The least positive number that a signed word of 64 bits cannot hold, `2 ^ 63`. -/
def wordBound : Int := 0x8000000000000000

/-- The value of a digit in bases up to 36, for both cases of the letters. -/
def digitValue? (c : Char) : Option Nat :=
  if '0' ≤ c ∧ c ≤ '9' then some (c.toNat - '0'.toNat)
  else if 'a' ≤ c ∧ c ≤ 'z' then some (c.toNat - 'a'.toNat + 10)
  else if 'A' ≤ c ∧ c ≤ 'Z' then some (c.toNat - 'A'.toNat + 10)
  else none

/-- The number that a list of digits writes in a base; characters that are no digits are passed
over. -/
def digitsValue (base : Nat) (cs : List Char) : Nat :=
  cs.foldl (fun n c => match digitValue? c with
    | some d => base * n + d
    | none => n) 0

/-- Why the text of an integer cannot be read, or an integer cannot be written. -/
inductive DigitFault
  /-- A text of this many digits is too long to be read. -/
  | reading (digits : Nat)
  /-- An integer is too long to be written. -/
  | writing
  deriving DecidableEq, Repr

/-- The wording of a digit fault. -/
def DigitFault.message : DigitFault → String
  | .reading n =>
    "Exceeds the limit (4300 digits) for integer string conversion: value has " ++
    String.ofList (natText n) ++
    " digits; use sys.set_int_max_str_digits() to increase the limit"
  | .writing =>
    "Exceeds the limit (4300 digits) for integer string conversion; " ++
    "use sys.set_int_max_str_digits() to increase the limit"

/-- The number that decimal digits write, up to the digit limit. -/
def readDigits (cs : List Char) : Except DigitFault Nat :=
  if digitLimit < cs.length then .error (.reading cs.length) else .ok (digitsValue 10 cs)

/-- The decimal text of an integer, up to the digit limit. -/
def writeInt (n : Int) : Except DigitFault (List Char) :=
  if exceedsDigitLimit n then .error .writing else .ok (intText n)

end Number
end WorkflowKit
