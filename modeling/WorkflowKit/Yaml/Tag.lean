/-
# Tags

Every node has a tag, which says how its value is read.  A plain scalar without a tag gets one by
its form:

| tag | forms |
| --- | --- |
| null | the empty text, `~`, `null` |
| truth value | `true`, `yes`, `on` and their opposites |
| integer | binary, octal, decimal, hexadecimal, and parts of base 60 between colons |
| floating-point number | with a point; an exponent has a sign; `.inf` and `.nan` |
| timestamp | a date, with or without a time |
| merge | `<<` |
| default value | `=` |

The words are taken in lower case, in upper case and capitalised.  Underscores between digits
count for nothing.
-/

import WorkflowKit.Text
import WorkflowKit.Text.CodeSet
import WorkflowKit.Yaml.Timestamp

namespace WorkflowKit
namespace Yaml

/-- A tag. -/
inductive Tag
  /-- The absent value. -/
  | null
  /-- A truth value. -/
  | bool
  /-- An integer. -/
  | int
  /-- A floating-point number. -/
  | float
  /-- Bytes. -/
  | binary
  /-- A date or an instant. -/
  | timestamp
  /-- A text. -/
  | text
  /-- The key whose value is merged into a mapping. -/
  | merge
  /-- The key of the value that stands for a mapping. -/
  | value
  /-- A list. -/
  | sequence
  /-- A mapping. -/
  | mapping
  /-- A set. -/
  | set
  /-- A list of pairs in order. -/
  | orderedMap
  /-- A list of pairs. -/
  | pairs
  /-- A tag without a meaning here. -/
  | other
  deriving DecidableEq, Repr

/-- What stands before the name of a common tag. -/
def commonTags : String := "tag:yaml.org,2002:"

/-- The names of the common tags. -/
def tagNames : List (String × Tag) :=
  [("null", .null), ("bool", .bool), ("int", .int), ("float", .float), ("binary", .binary),
    ("timestamp", .timestamp), ("str", .text), ("merge", .merge), ("value", .value),
    ("seq", .sequence), ("map", .mapping), ("set", .set), ("omap", .orderedMap),
    ("pairs", .pairs)]

/-- The tag that a text names in full. -/
def Tag.ofText (s : String) : Tag :=
  match tagNames.find? fun t => commonTags ++ t.1 == s with
  | some (_, t) => t
  | none => .other

/-- The spellings of a word: in lower case, in upper case, capitalised. -/
def spellings (w : String) : List String := [w, w.toUpper, w.capitalize]

/-- The words for truth values. -/
def boolForms : List String :=
  ["yes", "no", "true", "false", "on", "off"].flatMap spellings

/-- The words for the absent value, and the empty text. -/
def nullForms : List String := "" :: "~" :: spellings "null"

/-- A text without the sign before it. -/
def dropSign : List Char → List Char
  | '-' :: cs => cs
  | '+' :: cs => cs
  | cs => cs

/-- A decimal digit or an underscore. -/
def isGroupChar (c : Char) : Bool := c.isDigit || c == '_'

/-- Whether a text is a part of a number of base 60: below 60, of one or two digits. -/
def isSixtieth : List Char → Bool
  | [a] => a.isDigit
  | [a, b] => '0' ≤ a && a ≤ '5' && b.isDigit
  | _ => false

/-- Whether a text is a digit and then digits and underscores. -/
def isDigitGroup : List Char → Bool
  | [] => false
  | c :: cs => c.isDigit && cs.all isGroupChar

/-- Whether a text is an integer. -/
def isIntForm (cs : List Char) : Bool :=
  let cs := dropSign cs
  match cs with
  | [] => false
  | '0' :: rest =>
    rest.isEmpty ||
      (match rest with
        | 'b' :: ds => !ds.isEmpty && ds.all fun c => c == '0' || c == '1' || c == '_'
        | 'x' :: ds => !ds.isEmpty && ds.all fun c => isHexDigit c || c == '_'
        | ds => ds.all fun c => ('0' ≤ c && c ≤ '7') || c == '_')
  | _ =>
    match Text.pieces (· = ':') cs with
    | first :: parts => isDigitGroup first && parts.all isSixtieth
    | [] => false

/-- Whether a text is the exponent of a floating-point number, or empty. -/
def isExponentForm : List Char → Bool
  | [] => true
  | e :: sign :: ds =>
    (e == 'e' || e == 'E') && (sign == '+' || sign == '-') && !ds.isEmpty && ds.all Char.isDigit
  | _ => false

/-- Whether a text is digits, underscores and perhaps an exponent. -/
def isFractionForm (cs : List Char) : Bool := isExponentForm (cs.dropWhile isGroupChar)

/-- Whether a text is a floating-point number. -/
def isFloatForm (cs : List Char) : Bool :=
  let body := dropSign cs
  let whole := body.takeWhile (· ≠ '.')
  match body.dropWhile (· ≠ '.') with
  | [] => false
  | _ :: fraction =>
    match Text.pieces (· = ':') whole with
    | [[]] =>
      ["inf", "Inf", "INF"].contains (String.ofList fraction) ||
        (cs.head? == some '.' &&
          (["nan", "NaN", "NAN"].contains (String.ofList fraction) ||
            ((fraction.headD ' ').isDigit && isFractionForm fraction)))
    | [w] => isDigitGroup w && isFractionForm fraction
    | w :: parts => isDigitGroup w && parts.all isSixtieth && fraction.all isGroupChar
    | [] => false

/-- A text without the line feed at its end. -/
def dropFinalBreak (cs : List Char) : List Char :=
  if cs.getLast? = some '\n' then cs.dropLast else cs

/-- The tag that a plain scalar has by its form.  A line feed at the end of a text counts for
nothing. -/
def plainTag (t : Text) : Tag :=
  let cs := dropFinalBreak t.chars
  let s := String.ofList cs
  if cs.isEmpty && !t.isEmpty then .text
  else if nullForms.contains s then .null
  else if boolForms.contains s then .bool
  else if isFloatForm cs then .float
  else if isIntForm cs then .int
  else if isTimestamp cs then .timestamp
  else if s == "<<" then .merge
  else if s == "=" then .value
  else if s == "!" || s == "&" || s == "*" then .other
  else .text

end Yaml
end WorkflowKit
