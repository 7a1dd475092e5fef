/-
# Faults of a document

Decoding does not stop at the first fault: it collects all of them, each with the place in the
document, a path of keys and indexes.
-/

import WorkflowKit.Doc

namespace WorkflowKit
namespace Decode

/-- A step of a path into a document. -/
inductive Step
  /-- The value under a key, or a part that has a name. -/
  | key (s : String)
  /-- The item at an index, or the value under a number. -/
  | index (n : Int)
  deriving DecidableEq, Repr

/-- What is wrong at a place. -/
inductive FaultKind
  /-- A required field is missing. -/
  | missing
  /-- A key fits no field. -/
  | unknownKey
  /-- A key is no text. -/
  | badKey
  /-- Text is expected. -/
  | notText
  /-- A text cannot be stored: it holds a half of a pair, or comes from bytes that encode none. -/
  | badText
  /-- A list is expected. -/
  | notList
  /-- A mapping is expected. -/
  | notMapping
  /-- A record of this name is expected. -/
  | notRecord (name : String)
  /-- A record of one of several kinds is expected. -/
  | notTagged
  /-- The kind of a record is missing. -/
  | noTag
  /-- The kind of a record is none of those expected. -/
  | badTag (tag : String) (expected : List String)
  /-- One fixed word is expected. -/
  | notWord (expected : String)
  /-- One of these words is expected. -/
  | notOneOf (expected : List String)
  /-- A number is negative. -/
  | negative
  /-- An integer is expected. -/
  | notInt
  /-- A text writes no integer. -/
  | badInt
  /-- A number has a fractional part. -/
  | fractional
  /-- A number is too large to be read as an integer. -/
  | tooLarge
  /-- A number is not finite. -/
  | notFinite
  /-- A truth value is expected. -/
  | notBool
  /-- A text or a number stands for no truth value. -/
  | badBool
  /-- The path of a file is expected. -/
  | notPath
  /-- A rule is broken that has its own wording. -/
  | rule (message : String)
  /-- A state stands inside itself. -/
  | endless
  deriving DecidableEq, Repr

/-- Words between quotes, separated by commas. -/
def quotedWords (words : List String) : String :=
  String.intercalate ", " (words.map fun w => "\x27" ++ w ++ "\x27")

/-- Words between quotes as alternatives. -/
def alternatives (words : List String) : String :=
  match words.reverse with
  | [] => ""
  | [w] => quotedWords [w]
  | w :: ws => quotedWords ws.reverse ++ " or " ++ quotedWords [w]

namespace FaultKind

/-- The code of a kind of fault. -/
def code : FaultKind → String
  | missing => "missing"
  | unknownKey => "extra_forbidden"
  | badKey => "invalid_key"
  | notText => "string_type"
  | badText => "string_unicode"
  | notList => "list_type"
  | notMapping => "dict_type"
  | notRecord _ => "model_type"
  | notTagged => "model_attributes_type"
  | noTag => "union_tag_not_found"
  | badTag _ _ => "union_tag_invalid"
  | notWord _ => "literal_error"
  | notOneOf _ => "enum"
  | negative => "greater_than_equal"
  | notInt => "int_type"
  | badInt => "int_parsing"
  | fractional => "int_from_float"
  | tooLarge => "int_parsing_size"
  | notFinite => "finite_number"
  | notBool => "bool_type"
  | badBool => "bool_parsing"
  | notPath => "path_type"
  | rule _ => "value_error"
  | endless => "recursion_loop"

/-- The wording of a kind of fault. -/
def message : FaultKind → String
  | missing => "Field required"
  | unknownKey => "Extra inputs are not permitted"
  | badKey => "Keys should be strings"
  | notText => "Input should be a valid string"
  | badText => "Input should be a valid string, unable to parse raw data as a unicode string"
  | notList => "Input should be a valid list"
  | notMapping => "Input should be a valid dictionary"
  | notRecord name => "Input should be a valid dictionary or instance of " ++ name
  | notTagged => "Input should be a valid dictionary or object to extract fields from"
  | noTag => "Unable to extract tag using discriminator \x27type\x27"
  | badTag tag expected =>
    "Input tag \x27" ++ tag ++
      "\x27 found using \x27type\x27 does not match any of the expected tags: " ++
      quotedWords expected
  | notWord w => "Input should be " ++ quotedWords [w]
  | notOneOf ws => "Input should be " ++ alternatives ws
  | negative => "Input should be greater than or equal to 0"
  | notInt => "Input should be a valid integer"
  | badInt => "Input should be a valid integer, unable to parse string as an integer"
  | fractional => "Input should be a valid integer, got a number with a fractional part"
  | tooLarge => "Unable to parse input string as an integer, exceeded maximum size"
  | notFinite => "Input should be a finite number"
  | notBool => "Input should be a valid boolean"
  | badBool => "Input should be a valid boolean, unable to interpret input"
  | notPath => "Input is not a valid path for <class \x27pathlib.Path\x27>"
  | rule message => "Value error, " ++ message
  | endless => "Recursion error - cyclic reference detected"

end FaultKind

/-- A fault of a document. -/
structure Fault where
  /-- What is wrong. -/
  kind : FaultKind
  /-- Where. -/
  path : List Step
  deriving DecidableEq, Repr

/-- A fault seen from one step further out. -/
def Fault.under (step : Step) (f : Fault) : Fault :=
  { f with path := step :: f.path }

/-- What is read from a document, or all faults found. -/
abbrev Checked (α : Type) := Except (List Fault) α

namespace Checked

/-- One fault at the place itself. -/
def fail {α : Type} (kind : FaultKind) : Checked α := .error [⟨kind, []⟩]

/-- The outcome seen from one step further out. -/
def under {α : Type} (step : Step) : Checked α → Checked α
  | .ok a => .ok a
  | .error fs => .error (fs.map (Fault.under step))

/-- Two outcomes together: the faults of both. -/
def both {α β : Type} : Checked α → Checked β → Checked (α × β)
  | .ok a, .ok b => .ok (a, b)
  | .ok _, .error gs => .error gs
  | .error fs, .ok _ => .error fs
  | .error fs, .error gs => .error (fs ++ gs)

/-- The results of several outcomes: the faults of all. -/
def all {α : Type} : List (Checked α) → Checked (List α)
  | [] => .ok []
  | x :: xs => (fun p => p.1 :: p.2) <$> both x (all xs)

end Checked

/-- A way to read a document. -/
abbrev Decoder (α : Type) := Doc → Checked α

/-- The text that stands for a document without a written form. -/
def unprintable (kindName : String) : String := "<unprintable " ++ kindName ++ " object>"

/-- The step to the value under a key: a number for an integer of 64 bits or a truth value. -/
def keyStep : Scalar → Step
  | .text s => .key s.lossy
  | .bool b => .index (if b then 1 else 0)
  | .int n =>
    if -Number.wordBound ≤ n ∧ n < Number.wordBound then .index n
    else if Number.exceedsDigitLimit n then .key (unprintable "int")
    else .key (Scalar.int n).display
  | s => .key s.display

end Decode
end WorkflowKit
