/-
# The tokens of a YAML text

A YAML text is cut into tokens before its structure is read.  Three of them stand for no
character: the start of a block sequence or mapping, and the end of a block.  They come from the
indentation.
-/

import WorkflowKit.Yaml.Cursor

namespace WorkflowKit
namespace Yaml

/-- A directive. -/
inductive Directive
  /-- The version of YAML, by its first number. -/
  | version (major : Nat)
  /-- What a handle in tags stands for. -/
  | handle (name : String) (meaning : String)
  /-- A directive without a meaning. -/
  | other
  deriving DecidableEq, Repr

/-- A token. -/
inductive Token
  /-- A directive. -/
  | directive (d : Directive)
  /-- `---`. -/
  | documentStart
  /-- `...`. -/
  | documentEnd
  /-- The end of the text. -/
  | streamEnd
  /-- The start of a block sequence. -/
  | blockSequence
  /-- The start of a block mapping. -/
  | blockMapping
  /-- The end of a block sequence or mapping. -/
  | blockEnd
  /-- An opening bracket. -/
  | flowSequence
  /-- A closing bracket. -/
  | flowSequenceEnd
  /-- An opening brace. -/
  | flowMapping
  /-- A closing brace. -/
  | flowMappingEnd
  /-- A comma. -/
  | flowEntry
  /-- A hyphen before an item. -/
  | blockEntry
  /-- A question mark before a key, or the start of a key without one. -/
  | key
  /-- A colon before a value. -/
  | value
  /-- A reference to an anchor. -/
  | reference (name : String)
  /-- An anchor. -/
  | anchor (name : String)
  /-- A tag: its handle, if it has one, and the rest. -/
  | tag (handle : Option String) (suffix : String)
  /-- A scalar, and whether it is written without quotes and indicators. -/
  | scalar (plain : Bool) (value : Text)
  deriving DecidableEq, Repr

end Yaml
end WorkflowKit
