/-
# Shapes of extension records

An extension record has an id and, after it, the fields of the shape that is registered for the
id.  A registry keeps its ids in the order of their first registration; registering an id again
replaces its shape.
-/

import WorkflowKit.Value
import WorkflowKit.Workflow

namespace WorkflowKit

/-- What a field of an extension record holds. -/
inductive ExtensionField
  /-- A text, which is not read from a number, with a default. -/
  | text (fallback : Text)
  /-- An integer, with a default. -/
  | int (fallback : Int)
  /-- A text that may be missing. -/
  | optionalText
  /-- A mapping to texts. -/
  | texts
  /-- A list of texts, which are not read from numbers. -/
  | items
  /-- Data paths that may be missing. -/
  | filter
  deriving DecidableEq, Repr

/-- The shape of extension records. -/
structure ExtensionShape where
  /-- The name of the shape. -/
  name : String
  /-- The fields after the id, by their names. -/
  fields : List (String × ExtensionField)
  deriving DecidableEq, Repr

/-- Whether a character may stand in the name of a field: above ASCII, every one that shows on a
line. -/
def isFieldChar (c : Char) : Bool :=
  let n := c.toNat
  c.isAlphanum || c == '_' || (0xa1 ≤ n && n ≤ 0xfffd && n != 0x2028 && n != 0x2029 && n != 0xfeff)
    || (0x10000 ≤ n && n < 0x10ffff)

/-- A shape is well formed if its fields have names, which are distinct from each other and from the
two names of the id. -/
structure ExtensionShape.WellFormed (s : ExtensionShape) : Prop where
  /-- The names are distinct. -/
  names_nodup : ("extensionid" :: "extension_id" :: s.fields.map Prod.fst).Nodup
  /-- The names are names. -/
  isFieldChar_of_mem : ∀ f ∈ s.fields, f.1.toList.all isFieldChar = true

instance (s : ExtensionShape) : Decidable s.WellFormed :=
  decidable_of_iff (("extensionid" :: "extension_id" :: s.fields.map Prod.fst).Nodup ∧
    ∀ f ∈ s.fields, f.1.toList.all isFieldChar = true)
    ⟨fun h => ⟨h.1, h.2⟩, fun h => ⟨h.1, h.2⟩⟩

/-- What may be offered for registration. -/
inductive RecordType
  /-- The shape of extension records. -/
  | shape (s : ExtensionShape) (wellFormed : s.WellFormed := by decide)
  /-- Some other type of records, and how it is shown. -/
  | other (display : String)
  deriving DecidableEq, Repr

/-- Why a registration is refused. -/
inductive RegistrationFault
  /-- The id is empty. -/
  | emptyId
  /-- What is offered is no shape of extension records. -/
  | notExtension (display : String)
  deriving DecidableEq, Repr

/-- The wording of a refusal. -/
def RegistrationFault.message : RegistrationFault → String
  | .emptyId => "Extension id must not be empty"
  | .notExtension display => display ++ " is not an Extension subclass"

/-- The shapes of extension records by id. -/
structure ExtensionRegistry where
  /-- Ids and shapes, in order of first registration. -/
  entries : List (Text × ExtensionShape)
  /-- The shapes are well formed. -/
  wellFormed : ∀ e ∈ entries, e.2.WellFormed
  deriving DecidableEq, Repr

namespace ExtensionRegistry

/-- The registry without ids. -/
def empty : ExtensionRegistry := ⟨[], by simp⟩

/-- Registers a shape for an id. -/
def register (r : ExtensionRegistry) (id : Text) (type : RecordType) :
    Except RegistrationFault ExtensionRegistry :=
  if id.isEmpty then .error .emptyId
  else match type with
    | .other display => .error (.notExtension display)
    | .shape s wellFormed => .ok ⟨putEntry id s r.entries, fun e he =>
        (eq_or_mem_of_mem_putEntry he).elim (fun h => h ▸ wellFormed) (r.wellFormed e)⟩

/-- Registers shapes one after the other, up to the first that is refused. -/
def registerAll (r : ExtensionRegistry) (types : List (Text × RecordType)) :
    Except RegistrationFault ExtensionRegistry :=
  types.foldlM (fun r e => r.register e.1 e.2) r

/-- The shape registered for an id. -/
def get? (r : ExtensionRegistry) (id : Text) : Option ExtensionShape :=
  lookup? id r.entries

/-- The ids. -/
def ids (r : ExtensionRegistry) : List Text := r.entries.map Prod.fst

end ExtensionRegistry
end WorkflowKit
