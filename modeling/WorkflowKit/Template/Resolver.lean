/-
# Resolving placeholders

Every placeholder that refers to a property or a variable is replaced by the text of its value.  The
references of a text are found first, and then replaced one by one from the last one on, so that
those before keep their places; what a value brings in is not looked at again.  A property whose
value is absent counts as unknown.  An unknown key leaves its placeholder in place, or is a fault if
the resolver is strict; of several unknown keys in one text the last one is reported.

In a document the texts are resolved, but not the keys of mappings.

Resolving goes down into lists and mappings by calls in each other.  There may be `Room` for so many
of them only, and then it gives up at the first place that lies too deep, or where a collection
occurs inside itself.  The calls by which the text of a value is made are not counted: it is had for
values of any depth.
-/

import WorkflowKit.Doc
import WorkflowKit.Template.Placeholder

namespace WorkflowKit
namespace Template

/-- What placeholders are replaced by. -/
structure Resolver where
  /-- The properties. -/
  properties : List (String × Value)
  /-- The environment variables that may be used. -/
  env : List (String × String)
  /-- Whether an unknown key is a fault. -/
  strict : Bool

/-- Why a document cannot be resolved. -/
inductive ResolveFault
  /-- A key is unknown. -/
  | unknown (target : Target) (placeholder : Text)
  /-- A value holds an integer that is too long to be written. -/
  | digits (fault : Number.DigitFault)
  /-- The document is nested too deep. -/
  | nested
  deriving Repr

/-- The wording of a document that is nested too deep. -/
def nestedMessage : String := "maximum recursion depth exceeded"

/-- The wording of a fault. -/
def ResolveFault.message : ResolveFault → Text
  | .unknown t placeholder =>
    Text.ofString ("Unknown " ++ t.root.text ++ " key \x27" ++ t.key ++ "\x27 in placeholder ") ++
      placeholder
  | .digits f => f.message
  | .nested => nestedMessage

/-! ## Room -/

/-- The room for calls in each other. -/
structure Room where
  /-- So many calls may still be made. -/
  calls : Nat
  /-- The collections that are being resolved. -/
  path : List Nat

namespace Room

/-- The room that is there for the document of a text. -/
def initial : Room := ⟨992, []⟩

/-- The room inside of `n` calls, if there is enough for them.  Without a bound there always is. -/
def inside (n : Nat) : Option Room → Except ResolveFault (Option Room)
  | none => .ok none
  | some room =>
    if n ≤ room.calls then .ok (some { room with calls := room.calls - n }) else .error .nested

/-- The room inside of a collection, unless that occurs inside itself. -/
def within (id : Nat) : Option Room → Except ResolveFault (Option Room)
  | none => .ok none
  | some room =>
    if room.path.contains id then .error .nested
    else .ok (some { room with path := id :: room.path })

end Room

/-- The calls to go into a list or a mapping. -/
def collectionCalls : Nat := 2

/-- The calls to find the references of a text, and to note one. -/
def textCalls (s : Text) : Nat := if (references s).isEmpty then 4 else 5

/-- The calls to go through a list of pairs, which are left alone. -/
def pairsCalls (items : List (Doc × Doc)) : Nat :=
  if items.isEmpty then collectionCalls else collectionCalls + 1

namespace Resolver

/-! ## Texts -/

/-- The value of a target, if it is known. -/
def value? (r : Resolver) (t : Target) : Option Value :=
  match t.root with
  | .env => (lookup? t.key r.env).map fun s => .text s
  | .property =>
    match lookup? t.key r.properties with
    | some .null => none
    | v => v

/-- What a reference gives way to, if its key is known. -/
def textOf? (r : Resolver) (x : Reference) : Except ResolveFault (Option Text) :=
  match r.value? x.target with
  | some v => (some <$> v.tryText).mapError .digits
  | none => if r.strict then .error (.unknown x.target x.text) else .ok none

/-- Code points in which one reference is replaced. -/
def replace (r : Resolver) (ps : List CodePoint) (x : Reference) :
    Except ResolveFault (List CodePoint) := do
  match ← r.textOf? x with
  | some t => pure (ps.take x.start ++ t.points ++ ps.drop x.stop)
  | none => pure ps

/-- A text with its references replaced, from the last one on. -/
def text (r : Resolver) (s : Text) : Except ResolveFault Text :=
  Text.mk <$> (references s).reverse.foldlM r.replace s.points

/-! ## Documents -/

mutual

/-- A document with the placeholders of its texts replaced.  Sets and the pairs in lists are left
alone. -/
def resolveDoc (r : Resolver) (room : Option Room) : Doc → Except ResolveFault Doc
  | .scalar (.text s) => do
    let _ ← Room.inside (textCalls s) room
    (fun t => .scalar (.text t)) <$> r.text s
  | .list ds => do
    let room ← Room.inside collectionCalls room
    .list <$> resolveDocs r room ds
  | .map es => do
    let room ← Room.inside collectionCalls room
    .map <$> resolveDocEntries r room es
  | .shared id d => do
    let room ← Room.within id room
    .shared id <$> resolveDoc r room d
  | .pairs ps => do
    let _ ← Room.inside (pairsCalls ps) room
    .ok (.pairs ps)
  | d => do
    let _ ← Room.inside 1 room
    .ok d

/-- Documents with the placeholders of their texts replaced. -/
def resolveDocs (r : Resolver) (room : Option Room) : List Doc → Except ResolveFault (List Doc)
  | [] => .ok []
  | d :: ds => do
    let e ← resolveDoc r room d
    let es ← resolveDocs r room ds
    pure (e :: es)

/-- Entries with the placeholders of their values replaced. -/
def resolveDocEntries (r : Resolver) (room : Option Room) :
    List (Scalar × Doc) → Except ResolveFault (List (Scalar × Doc))
  | [] => .ok []
  | (k, d) :: es => do
    let e ← resolveDoc r room d
    let fs ← resolveDocEntries r room es
    pure ((k, e) :: fs)

end

end Resolver
end Template
end WorkflowKit
