/-
# Reading scalars

How the fields of records read scalars:

* a text field takes the text of numbers, truth values, dates and instants, and bytes that encode
  a text;
* an integer field takes truth values as 0 and 1, whole floating-point numbers strictly between
  `-2 ^ 63` and `2 ^ 63`, and texts of an optional sign, digits with single underscores between
  them, and an optional point with zeros;
* a truth value field takes 0 and 1 and a dozen words in any case.

Only a text field takes a text with halves of pairs.
-/

import WorkflowKit.Decode.Fault
import WorkflowKit.Text.Blank
import WorkflowKit.Text.Map

namespace WorkflowKit
namespace Decode

open Number (Binary64)

/-- The text that bytes encode. -/
def bytesText? (bs : List UInt8) : Option String :=
  String.fromUTF8? (ByteArray.mk bs.toArray)

/-- The characters of a text, which must not hold a half of a pair. -/
def storable (t : Text) : Checked (List Char) :=
  match t.chars? with
  | some cs => .ok cs
  | none => .fail .badText

/-- A text that is not read from other scalars. -/
def plainText : Decoder Text := fun d =>
  match d.unmarked with
  | .scalar (.text t) => .ok t
  | .scalar (.bytes bs) =>
    match bytesText? bs with
    | some s => .ok s
    | none => .fail .badText
  | _ => .fail .notText

/-- A text, or the text of a scalar. -/
def text : Decoder Text := fun d =>
  match d.unmarked with
  | .scalar (.bool b) => .ok (if b then "true" else "false")
  | .scalar (.int n) =>
    match Number.writeInt n with
    | .ok cs => .ok (.ofChars cs)
    | .error f => .fail (.rule f.message)
  | .scalar (.float x) => .ok (.ofChars x.text)
  | .scalar (.date x) => .ok x.text
  | .scalar (.instant t) => .ok t.text
  | d => plainText d

/-- A value that may be absent. -/
def optional {α : Type} (dec : Decoder α) : Decoder (Option α) := fun d =>
  match d.unmarked with
  | .scalar .null => .ok none
  | d => some <$> dec d

/-- Digits with single underscores between them, without the underscores. -/
def digitGroups? (cs : List Char) : Option (List Char) :=
  let groups := Text.pieces (· = '_') cs
  if groups.all fun g => !g.isEmpty && g.all Char.isDigit then some groups.flatten else none

/-- The digits of an integer without the zeros before them, among which any underscores may stand;
zero keeps one digit. -/
def integerDigits? (cs : List Char) : Option (List Char) :=
  match cs with
  | '0' :: rest =>
    match rest.dropWhile fun c => c = '0' ∨ c = '_' with
    | [] => if cs.getLast? = some '0' then some ['0'] else none
    | ds => digitGroups? ds
  | _ => digitGroups? cs

/-- The sign and the digits of an integer that may end in a point and zeros. -/
def integerParts? (cs : List Char) : Option (Bool × List Char) :=
  let (negative, cs) : Bool × List Char := match cs with
    | '-' :: cs => (true, cs)
    | '+' :: cs => (false, cs)
    | cs => (false, cs)
  let whole := cs.takeWhile (· ≠ '.')
  let ending := match cs.dropWhile (· ≠ '.') with
    | [] => true
    | _ :: zeros => !zeros.isEmpty && zeros.all (· = '0')
  if ending then (integerDigits? whole).map fun ds => (negative, ds) else none

/-- The integer that a text writes. -/
def integerText (cs : List Char) : Checked Int :=
  match integerParts? (Text.trim Text.isSpace cs) with
  | none => .fail .badInt
  | some (negative, ds) =>
    let ds := ds.dropWhile (· = '0')
    match Number.readDigits ds with
    | .ok n => .ok (if negative then -(n : Int) else n)
    | .error _ => .fail .tooLarge

/-- The integer that a floating-point number is. -/
def integerFloat (x : Binary64) : Checked Int :=
  if !x.isFinite then .fail .notFinite
  else match x.toInt? with
    | none => .fail .fractional
    | some n => if -Number.wordBound < n ∧ n < Number.wordBound then .ok n else .fail .tooLarge

/-- An integer. -/
def integer : Decoder Int := fun d =>
  match d.unmarked with
  | .scalar (.bool b) => .ok (if b then 1 else 0)
  | .scalar (.int n) => .ok n
  | .scalar (.float x) => integerFloat x
  | .scalar (.text t) => storable t >>= integerText
  | .scalar (.bytes bs) =>
    match bytesText? bs with
    | some s => integerText s.toList
    | none => .fail .badInt
  | _ => .fail .notInt

/-- An integer that is not negative. -/
def natural : Decoder Int := fun d => do
  let n ← integer d
  if n < 0 then .fail .negative else pure n

/-- The words for a truth value, in any case. -/
def boolWords (b : Bool) : List String :=
  if b then ["1", "on", "t", "true", "y", "yes"] else ["0", "off", "f", "false", "n", "no"]

/-- The truth value that a text stands for. -/
def boolText (cs : List Char) : Checked Bool :=
  let s := String.ofList (cs.map Char.toLower)
  if (boolWords true).contains s then .ok true
  else if (boolWords false).contains s then .ok false
  else .fail .badBool

/-- A truth value. -/
def truth : Decoder Bool := fun d =>
  match d.unmarked with
  | .scalar (.bool b) => .ok b
  | .scalar (.int n) =>
    if n = 0 then .ok false
    else if n = 1 then .ok true
    else if -Number.wordBound ≤ n ∧ n < Number.wordBound then .fail .badBool
    else .fail .notBool
  | .scalar (.float x) =>
    if x.toInt? = some 0 then .ok false
    else if x.toInt? = some 1 then .ok true
    else .fail .notBool
  | .scalar (.text t) => storable t >>= boolText
  | .scalar (.bytes bs) =>
    match bytesText? bs with
    | some s => boolText s.toList
    | none => .fail .badBool
  | _ => .fail .notBool

/-- The characters of a word that a text or bytes give; nothing for other values. -/
def wordChars (d : Doc) : Checked (Option (List Char)) :=
  match d.unmarked with
  | .scalar (.text t) => some <$> storable t
  | .scalar (.bytes bs) => .ok ((bytesText? bs).map String.toList)
  | _ => .ok none

/-- One of the words of an enumeration, or bytes that encode it. -/
def oneOf {α : Type} (text : α → String) (all : List α) : Decoder α := fun d => do
  let word? ← wordChars d
  match word?.bind fun cs => all.find? fun a => (text a).toList == cs with
  | some a => .ok a
  | none => .fail (.notOneOf (all.map text))

/-- One fixed word. -/
def word (expected : String) : Decoder Unit := fun d =>
  match d.unmarked with
  | .scalar (.text t) => do
    if (← storable t) = expected.toList then .ok () else .fail (.notWord expected)
  | _ => .fail (.notWord expected)

end Decode
end WorkflowKit
