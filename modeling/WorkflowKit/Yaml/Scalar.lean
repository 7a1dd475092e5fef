/-
# The values of scalars

How the text of a scalar is read by its tag.

* An integer may be written in base 2 after `0b`, in base 8 after `0`, in base 16 after `0x`, in
  base 60 with colons between its parts, and in base 10.
* A floating-point number may have parts of base 60 too.
* Bytes are written in base 64; characters outside of the alphabet are passed over.
* A timestamp is a date, or an instant if it has a time.

A scalar with a tag of its own may have any text, so that each tag has its own faults.
-/

import WorkflowKit.Doc
import WorkflowKit.Text.Case
import WorkflowKit.Text.Digit
import WorkflowKit.Yaml.Tag

namespace WorkflowKit
namespace Yaml

open Number (Binary64)

/-- The sign before a number, and the rest. -/
def takeSign : List Char → Bool × List Char
  | '-' :: cs => (true, cs)
  | '+' :: cs => (false, cs)
  | cs => (false, cs)

/-- Whether code points begin with a minus sign, and the code points without a sign. -/
def takePointSign : List CodePoint → Bool × List CodePoint
  | .char '-' :: ps => (true, ps)
  | .char '+' :: ps => (false, ps)
  | ps => (false, ps)

/-- The letter that may stand after a zero before the digits of a base. -/
def baseLetter? : Nat → Option Char
  | 2 => some 'b'
  | 8 => some 'o'
  | 16 => some 'x'
  | _ => none

/-- Digits without the zero and the letter of their base before them. -/
def dropBaseLetter (base : Nat) (cs : List Char) : List Char :=
  match cs, baseLetter? base with
  | '0' :: c :: rest, some l => if c.toLower = l then rest else cs
  | _, _ => cs

/-- Whether a character is a digit of a base. -/
def isDigitOf (base : Nat) (c : Char) : Bool :=
  match Number.digitValue? c with
  | some v => v < base
  | none => false

/-- An integer in a base: blanks around it, a sign and the letter of the base are allowed. -/
def integerIn (base : Nat) (ps : List CodePoint) : Except Fault Int :=
  let (negative, body) := takeSign (Text.numeral (ps.map CodePoint.toChar))
  let ds := dropBaseLetter base body
  if ds.isEmpty || !ds.all (isDigitOf base) then .error (.badInt base ⟨ps⟩)
  else if base = 10 ∧ Number.digitLimit < ds.length then .error (.digits (.reading ds.length))
  else
    let n : Int := Number.digitsValue base ds
    .ok (if negative then -n else n)

/-- A number of base 60, from the least part to the greatest. -/
def sixtiethsValue (parts : List Int) : Int :=
  parts.foldr (fun d n => d + 60 * n) 0

/-- The code points of a number, without underscores. -/
def digitPoints (t : Text) : List CodePoint := t.points.filter (· ≠ .char '_')

/-- The parts of a number of base 60. -/
def sixtieths (ps : List CodePoint) : List (List CodePoint) := Text.pieces (· = .char ':') ps

/-- An integer without its sign. -/
def unsignedInteger (ps : List CodePoint) : Except Fault Int :=
  match ps with
  | [] => .error .emptyNumber
  | [.char '0'] => .ok 0
  | .char '0' :: .char 'b' :: ds => integerIn 2 ds
  | .char '0' :: .char 'x' :: ds => integerIn 16 ds
  | .char '0' :: _ => integerIn 8 ps
  | _ =>
    if ps.contains (.char ':') then do
      let parts ← (sixtieths ps).mapM (integerIn 10)
      pure (sixtiethsValue parts.reverse)
    else integerIn 10 ps

/-- The value of an integer. -/
def integerValue (t : Text) : Except Fault Int :=
  match digitPoints t with
  | [] => .error .emptyNumber
  | ps =>
    let (negative, body) := takePointSign ps
    (fun n => if negative then -n else n) <$> unsignedInteger body

/-- The digits of a floating-point number and its exponent of ten. -/
def floatDigits? (cs : List Char) : Option (List Char × Int) := do
  let whole := cs.takeWhile Char.isDigit
  let rest := cs.drop whole.length
  let fraction := match rest with
    | '.' :: fs => fs.takeWhile Char.isDigit
    | _ => []
  let rest := match rest with
    | '.' :: fs => fs.drop fraction.length
    | rest => rest
  if whole.isEmpty && fraction.isEmpty then none
  else
    let shift : Int := fraction.length
    match rest with
    | [] => some (whole ++ fraction, -shift)
    | e :: es =>
      let (negative, ds) := takeSign es
      if (e = 'e' ∨ e = 'E') ∧ !ds.isEmpty ∧ ds.all Char.isDigit then
        let n : Int := decimal ds
        some (whole ++ fraction, (if negative then -n else n) - shift)
      else none

/-- A floating-point number: blanks around it and a sign are allowed. -/
def floatText (ps : List CodePoint) : Except Fault Binary64 :=
  let (negative, body) := takeSign (Text.numeral (ps.map CodePoint.toChar))
  let word := String.ofList (body.map Char.toLower)
  if word = "inf" ∨ word = "infinity" then .ok (.infinite negative)
  else if word = "nan" then .ok (.nan 0)
  else match floatDigits? body with
    | some (ds, e) => .ok (Binary64.ofDecimal negative (decimal ds) e)
    | none => .error (.badFloat ⟨ps⟩)

/-- A floating-point number of base 60, from the least part to the greatest. -/
def sixtiethsFloat : List Binary64 → Nat → Binary64 → Except Fault Binary64
  | [], _, sum => .ok sum
  | x :: xs, factor, sum =>
    match Binary64.ofInt? factor with
    | none => .error .hugeFactor
    | some f => sixtiethsFloat xs (factor * 60) (sum.add (x.mul f))

/-- The value of a floating-point number.  All NaN written `.nan` are one and the same. -/
def floatValue (t : Text) : Except Fault Binary64 :=
  match (Text.mk (digitPoints t)).lower.points with
  | [] => .error .emptyNumber
  | ps =>
    let (negative, body) := takePointSign ps
    let signed := fun (x : Binary64) => if negative then x.neg else x
    if Text.mk body = ".inf" then .ok (.infinite negative)
    else if Text.mk body = ".nan" then .ok (.nan 1)
    else if body.contains (.char ':') then do
      let parts ← (sixtieths body).mapM floatText
      signed <$> sixtiethsFloat parts.reverse 1 (Binary64.zero false)
    else signed <$> floatText body

/-- The value of a truth value. -/
def boolValue (t : Text) : Except Fault Bool :=
  let w := t.lower
  if w = "yes" ∨ w = "true" ∨ w = "on" then .ok true
  else if w = "no" ∨ w = "false" ∨ w = "off" then .ok false
  else .error (.badBool w)

/-- The value of a digit of base 64. -/
def digit64? (c : Char) : Option Nat :=
  if 'A' ≤ c ∧ c ≤ 'Z' then some (c.toNat - 'A'.toNat)
  else if 'a' ≤ c ∧ c ≤ 'z' then some (c.toNat - 'a'.toNat + 26)
  else if '0' ≤ c ∧ c ≤ '9' then some (c.toNat - '0'.toNat + 52)
  else if c = '+' then some 62
  else if c = '/' then some 63
  else none

/-- The bytes written in base 64.  `place` counts the digits of the group of four, `carry` holds
the bits that are left of them, and `pads` counts the signs `=` since the last digit; those that
fill up a group end the text. -/
def bytes64 : Nat → Nat → Nat → List Char → Except Fault (List UInt8)
  | place, _, _, [] => if place = 0 then .ok [] else .error .malformed
  | place, carry, pads, c :: cs =>
    if c = '=' then
      if 2 ≤ place ∧ 4 ≤ place + (pads + 1) then .ok []
      else bytes64 place carry (if 2 ≤ place then pads + 1 else pads) cs
    else match digit64? c with
      | none => bytes64 place carry pads cs
      | some v =>
        match place with
        | 0 => bytes64 1 v 0 cs
        | 1 => (UInt8.ofNat (carry * 4 + v / 16) :: ·) <$> bytes64 2 (v % 16) 0 cs
        | 2 => (UInt8.ofNat (carry * 16 + v / 4) :: ·) <$> bytes64 3 (v % 4) 0 cs
        | _ => (UInt8.ofNat (carry * 64 + v) :: ·) <$> bytes64 0 0 0 cs

/-- The value of a scalar of bytes. -/
def bytesValue (t : Text) : Except Fault (List UInt8) :=
  if t.points.all fun p => p.number < 0x80 then bytes64 0 0 0 t.chars else .error .malformed

/-- A fault of the calendar. -/
def calendarFault {α : Type} (x : Except CalendarFault α) : Except Fault α :=
  x.mapError .calendar

/-- The value of a timestamp. -/
def timestampValue (t : Text) : Except Fault Scalar :=
  match timestampParts? (dropFinalBreak t.chars) with
  | none => .error .badTimestamp
  | some p =>
    match p.time with
    | none => .date <$> calendarFault (Date.of p.year p.month p.day)
    | some t =>
      .instant <$> calendarFault
        (Instant.of p.year p.month p.day t.hour t.minute t.second t.micro t.offset)

/-- The value of a scalar.  A tag without a meaning, or of a collection, is a fault; `=` stands for
itself where it may stand at all. -/
def scalarValue (tag : Tag) (t : Text) : Except Fault Scalar :=
  match tag with
  | .null => .ok .null
  | .bool => .bool <$> boolValue t
  | .int => .int <$> integerValue t
  | .float => .float <$> floatValue t
  | .binary => .bytes <$> bytesValue t
  | .timestamp => timestampValue t
  | .text | .value => .ok (.text t)
  | _ => .error .malformed

end Yaml
end WorkflowKit
