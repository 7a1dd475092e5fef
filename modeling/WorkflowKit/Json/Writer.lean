/-
# Writing JSON

A value is laid out over lines: every item and entry on a line of its own, indented by two blanks
for each collection around it; an empty collection stays on its line.

Inside a text only the quote, the backslash and the control characters below U+0020 are escaped.
A half of a pair stands for itself.
-/

import WorkflowKit.Value

namespace WorkflowKit
namespace Json

open Number (DigitFault)

/-- A character as it stands between the quotes. -/
def writtenChar (c : Char) : List Char :=
  if c = '"' then ['\\', '"']
  else if c = '\\' then ['\\', '\\']
  else if c = '\n' then ['\\', 'n']
  else if c = '\r' then ['\\', 'r']
  else if c = '\t' then ['\\', 't']
  else if c = '\x08' then ['\\', 'b']
  else if c = '\x0c' then ['\\', 'f']
  else if c.toNat < 0x20 then '\\' :: 'u' :: Text.hexText 4 c.toNat
  else [c]

/-- A code point as it stands between the quotes. -/
def writtenPoint : CodePoint → List CodePoint
  | .char c => (writtenChar c).map .char
  | .half n => [.half n]

/-- A text between quotes. -/
def writtenText (t : Text) : List CodePoint :=
  .char '"' :: (t.points.flatMap writtenPoint ++ [.char '"'])

/-- A floating-point number. -/
def writtenFloat : Number.Binary64 → List Char
  | .nan _ => "NaN".toList
  | .infinite s => (if s then "-Infinity" else "Infinity").toList
  | x => x.text

/-- The start of a line inside `depth` collections. -/
def lineStart (depth : Nat) : List CodePoint :=
  ('\n' :: List.replicate (2 * depth) ' ').map .char

/-- An entry of a mapping, on its line. -/
def writtenEntry (depth : Nat) (key : Text) (value : List CodePoint) : List CodePoint :=
  lineStart depth ++ writtenText key ++ .char ':' :: .char ' ' :: value

mutual

/-- A value inside `depth` collections. -/
def written (depth : Nat) : Value → List CodePoint
  | .null => "null".toList.map .char
  | .bool b => (if b then "true" else "false").toList.map .char
  | .int n => (Number.intText n).map .char
  | .float x => (writtenFloat x).map .char
  | .text s => writtenText s
  | .list [] => [.char '[', .char ']']
  | .list items =>
    .char '[' :: writtenItems (depth + 1) items ++ lineStart depth ++ [.char ']']
  | .map [] => [.char '\x7b', .char '\x7d']
  | .map entries =>
    .char '\x7b' :: writtenEntries (depth + 1) entries ++ lineStart depth ++ [.char '\x7d']

/-- The items of a list, each on its line. -/
def writtenItems (depth : Nat) : List Value → List CodePoint
  | [] => []
  | [v] => lineStart depth ++ written depth v
  | v :: vs => lineStart depth ++ written depth v ++ .char ',' :: writtenItems depth vs

/-- The entries of a mapping, each on its line. -/
def writtenEntries (depth : Nat) : List (Text × Value) → List CodePoint
  | [] => []
  | [(k, v)] => writtenEntry depth k (written depth v)
  | (k, v) :: es =>
    writtenEntry depth k (written depth v) ++ .char ',' :: writtenEntries depth es

end

/-- The JSON text of a value, unless it holds an integer that is too long to be written. -/
def write (v : Value) : Except DigitFault Text :=
  if v.holdsLongInt then .error .writing else .ok ⟨written 0 v⟩

end Json
end WorkflowKit
