/-
# Plain values

The values of expressions, of properties, and of documents whose mappings have text keys.  A
mapping is a list of entries with distinct keys, in the order in which they were written.

`display` is how a value is shown inside a message: text between quotes, `True`, `False` and
`None`, lists and mappings in brackets and braces.  `text` is how a value is put into a text: text
as it is, everything else as it is displayed.
-/

import WorkflowKit.Entries
import WorkflowKit.Number.Decimal
import WorkflowKit.Number.Shortest
import WorkflowKit.Text.Quoted

namespace WorkflowKit

open Number (Binary64)

/-- A plain value. -/
inductive Value
  /-- The absent value. -/
  | null
  /-- A truth value. -/
  | bool (b : Bool)
  /-- An integer of any size. -/
  | int (n : Int)
  /-- A floating-point number. -/
  | float (x : Binary64)
  /-- A text. -/
  | text (s : Text)
  /-- A list. -/
  | list (items : List Value)
  /-- A mapping, in order. -/
  | map (entries : List (Text × Value))
  deriving Repr, Inhabited

/-- A text between quotes. -/
def quotedText (t : Text) : String :=
  String.ofList t.quoted

/-- The name of a truth value inside a message. -/
def boolDisplay (b : Bool) : String :=
  if b then "True" else "False"

namespace Value

mutual

/-- A value inside a message. -/
def display : Value → String
  | null => "None"
  | bool b => boolDisplay b
  | int n => String.ofList (Number.intText n)
  | float x => String.ofList x.text
  | text s => quotedText s
  | list items => "[" ++ displayItems items ++ "]"
  | map entries => "\x7b" ++ displayEntries entries ++ "\x7d"

/-- The items of a list inside a message. -/
def displayItems : List Value → String
  | [] => ""
  | [v] => v.display
  | v :: vs => v.display ++ ", " ++ displayItems vs

/-- The entries of a mapping inside a message. -/
def displayEntries : List (Text × Value) → String
  | [] => ""
  | [(k, v)] => quotedText k ++ ": " ++ v.display
  | (k, v) :: es => quotedText k ++ ": " ++ v.display ++ ", " ++ displayEntries es

end

/-- A value put into a text. -/
def asText : Value → Text
  | text s => s
  | v => v.display

mutual

/-- Whether a value holds an integer that is too long to be written. -/
def holdsLongInt : Value → Bool
  | int n => Number.exceedsDigitLimit n
  | list items => anyLongInt items
  | map entries => anyEntryLongInt entries
  | _ => false

/-- Whether an item holds an integer that is too long to be written. -/
def anyLongInt : List Value → Bool
  | [] => false
  | v :: vs => v.holdsLongInt || anyLongInt vs

/-- Whether an entry holds an integer that is too long to be written. -/
def anyEntryLongInt : List (Text × Value) → Bool
  | [] => false
  | (_, v) :: es => v.holdsLongInt || anyEntryLongInt es

end

/-- The display of a value, unless it holds an integer that is too long to be written. -/
def tryDisplay (v : Value) : Except Number.DigitFault String :=
  if v.holdsLongInt then .error .writing else .ok v.display

/-- The text of a value, unless it holds an integer that is too long to be written. -/
def tryText (v : Value) : Except Number.DigitFault Text :=
  if v.holdsLongInt then .error .writing else .ok v.asText

end Value
end WorkflowKit
