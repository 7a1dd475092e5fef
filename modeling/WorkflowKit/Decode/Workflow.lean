/-
# Reading workflows

The extension records of a workflow are read by the shapes that a registry holds for their ids.
They are read one after the other, and the first that is wrong ends the list: its faults stand
under `extensions` without an index.
-/

import WorkflowKit.Decode.State
import WorkflowKit.Extension

namespace WorkflowKit
namespace Decode

/-- Why a document is no workflow. -/
inductive Refusal
  /-- The document has faults. -/
  | faults (fs : List Fault)
  /-- An extension id is a collection of this kind, by which nothing can be looked up. -/
  | collectionId (kindName : String)
  deriving DecidableEq, Repr

/-- The wording for an extension id that is a collection. -/
def collectionIdMessage (kindName : String) : String :=
  "unhashable type: \x27" ++ kindName ++ "\x27"

/-- The field `extensionid`. -/
def extensionId : FieldName := ⟨"extensionid", "extension_id"⟩

/-- A field of an extension record. -/
def extensionField (name : String) : ExtensionField → Fields ExtensionValue
  | .text fallback => withDefault (same name) (.text fallback) fun d => .text <$> plainText d
  | .int fallback => withDefault (same name) (.int fallback) fun d => .int <$> integer d
  | .optionalText => .optionalText <$> maybe (same name) text
  | .texts => withDefault (same name) (.texts .empty) fun d => .texts <$> texts d
  | .items => withDefault (same name) (.items []) fun d => .items <$> list plainText d
  | .filter => .filter <$> maybe (same name) filter

/-- The fields of an extension record after its id. -/
def extensionFields : List (String × ExtensionField) → Fields (List (String × ExtensionValue))
  | [] => ⟨[], fun _ => .ok []⟩
  | (name, f) :: rest =>
    (fun v vs => (name, v) :: vs) <$> extensionField name f <*> extensionFields rest

/-- An extension record of a shape. -/
def extensionOf (shape : ExtensionShape) : Decoder Extension :=
  record shape.name ((fun id fields => ⟨shape.name, id, fields⟩)
    <$> required extensionId text
    <*> extensionFields shape.fields)

/-- The id that an extension record gives; a missing one is absent. -/
def givenId (entries : List (Scalar × Doc)) : Doc :=
  match extensionId.given? entries with
  | some (_, d) => d
  | none => .scalar .null

/-- The name of the kind of a collection. -/
def collectionKind? (d : Doc) : Option String :=
  match d.unmarked with
  | .scalar _ => none
  | _ => some d.kindName

/-- The wording for an id without a shape. -/
def noShape (id : Doc) : String :=
  if id.holdsLongInt then Number.DigitFault.writing.message
  else "No extension registered for id \x27" ++ id.asText.lossy ++ "\x27"

/-- A fault of the extension list as a whole. -/
def ruleFault {α : Type} (message : String) : Except Refusal α :=
  .error (.faults [⟨.rule message, []⟩])

/-- The shape that is registered for an id; without a registry nothing is looked up. -/
def shapeFor? (registry : Option ExtensionRegistry) (id : Doc) :
    Except Refusal (Option ExtensionShape) :=
  match registry with
  | none => .ok none
  | some r =>
    match collectionKind? id, id.unmarked with
    | some kind, _ => .error (.collectionId kind)
    | none, .scalar (.text s) => .ok (r.get? s)
    | none, _ => .ok none

/-- An extension record of the shape that is registered for its id. -/
def extension (registry : Option ExtensionRegistry) (d : Doc) : Except Refusal Extension :=
  match d.unmarked with
  | .map entries => do
    let id := givenId entries
    match ← shapeFor? registry id with
    | none => ruleFault (noShape id)
    | some shape => (extensionOf shape d).mapError .faults
  | _ => ruleFault "Extension must be a mapping"

/-- A list of extension records. -/
def extensionList (registry : Option ExtensionRegistry) (d : Doc) :
    Except Refusal (List Extension) :=
  match d.unmarked with
  | .list ds => ds.mapM (extension registry)
  | .pairs ps => if ps.isEmpty then .ok [] else ruleFault "Extension must be a mapping"
  | _ =>
    (list (fun _ => Checked.fail (.notRecord "Extension")) d).mapError .faults

/-- The field `extensions` as the other fields see it: an id that is a collection counts as no
fault here. -/
def extensions (registry : Option ExtensionRegistry) : Decoder (List Extension) := fun d =>
  match extensionList registry d with
  | .ok es => .ok es
  | .error (.faults fs) => .error fs
  | .error (.collectionId _) => .ok []

/-- The fields of a workflow. -/
def workflowFields (registry : Option ExtensionRegistry) : Fields Workflow :=
  Workflow.mk
    <$> maybe (same "id") text
    <*> maybe (same "name") text
    <*> maybe (same "version") text
    <*> maybe ⟨"starts-at", "starts_at"⟩ text
    <*> withDefault ⟨"trigger-defs", "trigger_defs"⟩ [] (list trigger)
    <*> withDefault (same "states") [] (list state)
    <*> withDefault (same "metadata") .empty texts
    <*> withDefault (same "extensions") [] (extensions registry)

/-- The kind of the first extension id that is a collection and that is looked up. -/
def collectionId? (registry : Option ExtensionRegistry) (entries : List (Scalar × Doc)) :
    Option String :=
  match Doc.field? "extensions" entries with
  | none => none
  | some d =>
    match extensionList registry d with
    | .error (.collectionId kind) => some kind
    | _ => none

/-- A workflow.  An extension id that is a collection is refused before any fault is reported. -/
def workflow (registry : Option ExtensionRegistry) (d : Doc) : Except Refusal Workflow :=
  match d.unmarked with
  | .map entries =>
    match collectionId? registry entries with
    | some kind => .error (.collectionId kind)
    | none => (ofEntries (workflowFields registry) entries).mapError .faults
  | _ => .error (.faults [⟨.notRecord "Workflow", []⟩])

end Decode
end WorkflowKit
