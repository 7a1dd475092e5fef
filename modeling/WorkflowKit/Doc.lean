/-
# Documents

What a workflow is decoded from: the values that JSON and YAML texts describe.  Beside plain
values there are bytes, dates and instants, mappings with keys of any scalar kind, sets, and lists
of pairs.

A collection may occur inside itself.  Such a document is unfolded to a bounded depth, and every
occurrence of the collection is marked with one number: `shared`.
-/

import WorkflowKit.Calendar
import WorkflowKit.Value.Order

namespace WorkflowKit

open Number (Binary64)

/-- A scalar of a document. -/
inductive Scalar
  /-- The absent value. -/
  | null
  /-- A truth value. -/
  | bool (b : Bool)
  /-- An integer. -/
  | int (n : Int)
  /-- A floating-point number. -/
  | float (x : Binary64)
  /-- A text. -/
  | text (s : Text)
  /-- A sequence of bytes. -/
  | bytes (bs : List UInt8)
  /-- A day. -/
  | date (d : Date)
  /-- A point of time. -/
  | instant (t : Instant)
  deriving Repr, Inhabited

/-- A document. -/
inductive Doc
  /-- A scalar. -/
  | scalar (s : Scalar)
  /-- A list. -/
  | list (items : List Doc)
  /-- A mapping, in order. -/
  | map (entries : List (Scalar × Doc))
  /-- A set, in order of insertion. -/
  | set (members : List Scalar)
  /-- A list of pairs. -/
  | pairs (items : List (Doc × Doc))
  /-- An occurrence of the collection of this number. -/
  | shared (id : Nat) (d : Doc)
  deriving Repr, Inhabited

namespace Scalar

/-- The number that a scalar counts as. -/
def numeric? : Scalar → Option Numeric
  | bool b => some (.int (if b then 1 else 0))
  | int n => some (.int n)
  | float x => some (.float x)
  | _ => none

/-- Whether two scalars are one key. -/
def sameKey : Scalar → Scalar → Bool
  | null, null => true
  | text s, text t => s == t
  | bytes a, bytes b => a == b
  | date d, date e => d == e
  | instant t, instant u => t.same u
  | float (.nan p), float (.nan q) => Binary64.isSameNan (.nan p) (.nan q)
  | x, y =>
    match x.numeric?, y.numeric? with
    | some a, some b => a.compare? b == some .eq
    | _, _ => false

/-- A scalar inside a message. -/
def display : Scalar → String
  | null => "None"
  | bool b => boolDisplay b
  | int n => String.ofList (Number.intText n)
  | float x => String.ofList x.text
  | text s => quotedText s
  | bytes bs => String.ofList (Text.quotedBytes bs)
  | date d => d.display
  | instant t => t.display

/-- A scalar put into a message as a text. -/
def asText : Scalar → Text
  | text s => s
  | date d => d.text
  | instant t => t.textWith " "
  | s => s.display

end Scalar

namespace Doc

mutual

/-- A document inside a message.  `path` holds the numbers of the collections around it; one that
stands inside itself is left out. -/
def displayIn (path : List Nat) : Doc → String
  | scalar s => s.display
  | list items => "[" ++ String.intercalate ", " (displayItems path items) ++ "]"
  | map entries => "\x7b" ++ String.intercalate ", " (displayEntries path entries) ++ "\x7d"
  | set [] => "set()"
  | set members => "\x7b" ++ String.intercalate ", " (members.map Scalar.display) ++ "\x7d"
  | pairs items => "[" ++ String.intercalate ", " (displayPairs path items) ++ "]"
  | shared id d =>
    if path.contains id then
      match d with
      | map _ => "\x7b...\x7d"
      | _ => "[...]"
    else displayIn (id :: path) d

/-- The items of a list inside a message. -/
def displayItems (path : List Nat) : List Doc → List String
  | [] => []
  | d :: ds => displayIn path d :: displayItems path ds

/-- The entries of a mapping inside a message. -/
def displayEntries (path : List Nat) : List (Scalar × Doc) → List String
  | [] => []
  | (k, d) :: es => (k.display ++ ": " ++ displayIn path d) :: displayEntries path es

/-- The pairs of a list inside a message. -/
def displayPairs (path : List Nat) : List (Doc × Doc) → List String
  | [] => []
  | (a, b) :: ps =>
    ("(" ++ displayIn path a ++ ", " ++ displayIn path b ++ ")") :: displayPairs path ps

end

/-- A document inside a message. -/
def display (d : Doc) : String := d.displayIn []

/-- A document put into a message as a text. -/
def asText : Doc → Text
  | scalar s => s.asText
  | d => d.display

mutual

/-- How deep a document is nested. -/
def depth : Doc → Nat
  | scalar _ => 0
  | list items => depthItems items + 1
  | map entries => depthEntries entries + 1
  | set _ => 1
  | pairs items => depthPairs items + 1
  | shared _ d => d.depth + 1

/-- The greatest depth of an item. -/
def depthItems : List Doc → Nat
  | [] => 0
  | d :: ds => max d.depth (depthItems ds)

/-- The greatest depth of a value. -/
def depthEntries : List (Scalar × Doc) → Nat
  | [] => 0
  | (_, d) :: es => max d.depth (depthEntries es)

/-- The greatest depth in a list of pairs. -/
def depthPairs : List (Doc × Doc) → Nat
  | [] => 0
  | (a, b) :: ps => max (max a.depth b.depth) (depthPairs ps)

end

/-- The document without the marks around it. -/
def unmarked : Doc → Doc
  | shared _ d => d.unmarked
  | d => d

/-- The name of a document's kind. -/
def kindName (d : Doc) : String :=
  match d.unmarked with
  | scalar .null => "NoneType"
  | scalar (.bool _) => "bool"
  | scalar (.int _) => "int"
  | scalar (.float _) => "float"
  | scalar (.text _) => "str"
  | scalar (.bytes _) => "bytes"
  | scalar (.date _) => "date"
  | scalar (.instant _) => "datetime"
  | list _ => "list"
  | map _ => "dict"
  | set _ => "set"
  | pairs _ => "list"
  | shared _ _ => "list"

mutual

/-- Whether a document holds an integer that is too long to be written. -/
def holdsLongInt : Doc → Bool
  | scalar (.int n) => Number.exceedsDigitLimit n
  | scalar _ => false
  | list items => anyLongInt items
  | map entries => anyEntryLongInt entries
  | set members => members.any fun
    | .int n => Number.exceedsDigitLimit n
    | _ => false
  | pairs items => anyPairLongInt items
  | shared _ d => d.holdsLongInt

/-- Whether an item holds an integer that is too long to be written. -/
def anyLongInt : List Doc → Bool
  | [] => false
  | d :: ds => d.holdsLongInt || anyLongInt ds

/-- Whether an entry holds an integer that is too long to be written. -/
def anyEntryLongInt : List (Scalar × Doc) → Bool
  | [] => false
  | (.int n, d) :: es => Number.exceedsDigitLimit n || d.holdsLongInt || anyEntryLongInt es
  | (_, d) :: es => d.holdsLongInt || anyEntryLongInt es

/-- Whether a pair holds an integer that is too long to be written. -/
def anyPairLongInt : List (Doc × Doc) → Bool
  | [] => false
  | (a, b) :: ps => a.holdsLongInt || b.holdsLongInt || anyPairLongInt ps

end

/-- The value under a text key. -/
def field? (key : Text) (entries : List (Scalar × Doc)) : Option Doc :=
  (entries.find? fun e => match e.1 with
    | .text s => s == key
    | _ => false).map Prod.snd

/-- Writes an entry of a mapping: a key that is there keeps its place and gets the new value, a new
key comes last. -/
def putEntry (key : Scalar) (value : Doc) : List (Scalar × Doc) → List (Scalar × Doc)
  | [] => [(key, value)]
  | (k, v) :: rest =>
    if k.sameKey key then (k, value) :: rest else (k, v) :: putEntry key value rest

/-- The entries in order of first occurrence of their keys, each with the last value. -/
def distinctEntries (entries : List (Scalar × Doc)) : List (Scalar × Doc) :=
  entries.foldl (fun acc e => putEntry e.1 e.2 acc) []

/-- Puts a scalar into a set. -/
def putMember (x : Scalar) (members : List Scalar) : List Scalar :=
  if members.any fun m => m.sameKey x then members else members ++ [x]

end Doc

namespace Value

mutual

/-- A plain value as a document. -/
def toDoc : Value → Doc
  | null => .scalar .null
  | bool b => .scalar (.bool b)
  | int n => .scalar (.int n)
  | float x => .scalar (.float x)
  | text s => .scalar (.text s)
  | list items => .list (itemsToDoc items)
  | map entries => .map (entriesToDoc entries)

/-- The items of a list as documents. -/
def itemsToDoc : List Value → List Doc
  | [] => []
  | v :: vs => v.toDoc :: itemsToDoc vs

/-- The entries of a mapping as entries of a document. -/
def entriesToDoc : List (Text × Value) → List (Scalar × Doc)
  | [] => []
  | (k, v) :: es => (.text k, v.toDoc) :: entriesToDoc es

end

end Value
end WorkflowKit
