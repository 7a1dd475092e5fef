/-
# Reading records

A record is a mapping with known fields.  A field has a key and a second name; the key counts if
both are given.  Every other key of the mapping is a fault.

The faults of a record come in this order: those of its fields, as the record lists them, then
those of the other keys, as the mapping lists them.  A key that holds a half of a pair is the only
fault of its record.
-/

import WorkflowKit.Decode.Scalar

namespace WorkflowKit
namespace Decode

/-- The names of a field. -/
structure FieldName where
  /-- The key in a document. -/
  key : String
  /-- The second name, which is read but never written. -/
  second : String
  deriving DecidableEq, Repr

/-- A field whose two names are the same. -/
def same (name : String) : FieldName := ⟨name, name⟩

/-- The name by which a mapping gives a field, and its value. -/
def FieldName.given? (f : FieldName) (entries : List (Scalar × Doc)) : Option (String × Doc) :=
  match Doc.field? f.key entries with
  | some d => some (f.key, d)
  | none => (Doc.field? f.second entries).map fun d => (f.second, d)

/-- A way to read some fields of a record. -/
structure Fields (α : Type) where
  /-- The fields that are read. -/
  names : List FieldName
  /-- What is read from the entries of a mapping. -/
  read : List (Scalar × Doc) → Checked α

namespace Fields

instance : Functor Fields where
  map f x := ⟨x.names, fun es => f <$> x.read es⟩

instance : Seq Fields where
  seq f x :=
    let x := x ()
    ⟨f.names ++ x.names, fun es => (fun p => p.1 p.2) <$> Checked.both (f.read es) (x.read es)⟩

end Fields

/-- A field that must be given. -/
def required {α : Type} (name : FieldName) (dec : Decoder α) : Fields α :=
  ⟨[name], fun es =>
    match name.given? es with
    | some (k, d) => (dec d).under (.key k)
    | none => (Checked.fail .missing).under (.key name.key)⟩

/-- A field with a default. -/
def withDefault {α : Type} (name : FieldName) (fallback : α) (dec : Decoder α) : Fields α :=
  ⟨[name], fun es =>
    match name.given? es with
    | some (k, d) => (dec d).under (.key k)
    | none => .ok fallback⟩

/-- A field that may be missing or absent. -/
def maybe {α : Type} (name : FieldName) (dec : Decoder α) : Fields (Option α) :=
  withDefault name none (optional dec)

/-- The faults of the keys that no field uses. -/
def otherKeys (used : List Text) (entries : List (Scalar × Doc)) : List Fault :=
  entries.filterMap fun e =>
    match e.1 with
    | .text t => if used.contains t then none else some ⟨.unknownKey, [.key t.lossy]⟩
    | k => some ⟨.badKey, [keyStep k]⟩

/-- Whether a key is a text that holds a half of a pair. -/
def isBrokenKey : Scalar → Bool
  | .text t => t.holdsHalf
  | _ => false

/-- The record that the entries of a mapping give. -/
def ofEntries {α : Type} (fields : Fields α) (entries : List (Scalar × Doc)) : Checked α :=
  if entries.any fun e => isBrokenKey e.1 then .fail .badText
  else
    let used := fields.names.filterMap fun f => (f.given? entries).map fun p => Text.ofString p.1
    let others := match otherKeys used entries with
      | [] => .ok ()
      | fs => .error fs
    Prod.fst <$> Checked.both (fields.read entries) others

/-- A record of a given name. -/
def record {α : Type} (name : String) (fields : Fields α) : Decoder α := fun d =>
  match d.unmarked with
  | .map entries => ofEntries fields entries
  | _ => .fail (.notRecord name)

/-- The items of a list, a set or a list of pairs. -/
def items? (d : Doc) : Option (List Doc) :=
  match d.unmarked with
  | .list ds => some ds
  | .set ss => some (ss.map .scalar)
  | .pairs ps => some (ps.map fun p => .list [p.1, p.2])
  | _ => none

/-- Items read one by one, with their indexes in the places of faults. -/
def readItems {α : Type} (dec : Decoder α) (n : Nat) : List Doc → Checked (List α)
  | [] => .ok []
  | d :: ds =>
    (fun p => p.1 :: p.2) <$> Checked.both ((dec d).under (.index n)) (readItems dec (n + 1) ds)

/-- A list. -/
def list {α : Type} (dec : Decoder α) : Decoder (List α) := fun d =>
  match items? d with
  | some ds => readItems dec 0 ds
  | none => .fail .notList

/-- A mapping to texts: the faults of a key come before those of its value. -/
def texts : Decoder TextMap := fun d =>
  match d.unmarked with
  | .map entries =>
    TextMap.ofEntries <$> Checked.all (entries.map fun e =>
      Checked.both
        (((plainText (.scalar e.1)).under (.key "[key]")).under (keyStep e.1))
        ((text e.2).under (keyStep e.1)))
  | _ => .fail .notMapping

/-- A record whose kind stands under `type`.  `choose` gives the way to read a record of a kind. -/
def tagged {α κ : Type} (text : κ → String) (all : List κ) (choose : κ → Decoder α) :
    Decoder α := fun d =>
  match d.unmarked with
  | .map entries =>
    match Doc.field? "type" entries with
    | none => .fail .noTag
    | some tag =>
      let kind? := match tag.unmarked with
        | .scalar (.text t) => all.find? fun k => Text.ofString (text k) == t
        | _ => none
      match kind? with
      | some k => (choose k d).under (.key (text k))
      | none =>
        let shown := if tag.holdsLongInt then unprintable tag.kindName else tag.asText.lossy
        .fail (.badTag shown (all.map text))
  | _ => .fail .notTagged

end Decode
end WorkflowKit
