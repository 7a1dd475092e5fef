/-
# The canonical form

The document of a workflow that is read is what pruning leaves of its dump, and has the shape of the
workflow at every depth (`canonical_document`): in a record stand the keys of exactly those fields
that are neither absent nor empty lists or mappings, in the order in which they are declared; a list
has all its items, even those of which nothing but an empty record remains.

Mappings to texts are not pruned, but their keys are written as strings, which have no halves of
pairs.  So a workflow is written with its mappings as they are exactly if no key of theirs holds a
half.
-/

import WorkflowKit.Proofs.Markup.Json
import WorkflowKit.Proofs.Workflow.Canonical

namespace WorkflowKit

/-! ### Extension records that are read -/

namespace Decode

variable {r : ExtensionRegistry}

/-- An extension record that is read has the fields of its shape. -/
theorem extensionOf_fields {shape : ExtensionShape} {d : Doc} {e : Extension}
    (h : extensionOf shape d = .ok e) :
    e.fields.map Prod.fst = shape.fields.map Prod.fst := by
  obtain ⟨es, -, h⟩ := record_eq_ok.1 h
  have hread := (ofEntries_eq_ok.1 h).2.2
  simp only [Fields.map_read_eq_ok, Fields.seq_read_eq_ok] at hread
  obtain ⟨_, ⟨id, -, rfl⟩, vs, hvs, rfl⟩ := hread
  have hkeys := (extensionFields_writes (r := .empty) hvs).keys_eq
  simpa [member_fst, extensionSpec_name, Function.comp_def] using hkeys

/-- The extension records of a workflow that is read have the shapes that are registered for their
ids. -/
theorem exists_shape_of_workflow {d : Doc} {w : Workflow} (h : workflow (some r) d = .ok w) :
    ∀ e ∈ w.extensions, ∃ shape, r.get? e.id = some shape ∧
      e.fields.map Prod.fst = shape.fields.map Prod.fst := by
  obtain ⟨es, -, hid, h⟩ := workflow_eq_ok.1 h
  have hread := (ofEntries_eq_ok.1 h).2.2
  simp only [workflowFields, Fields.map_read_eq_ok, Fields.seq_read_eq_ok] at hread
  obtain ⟨_, ⟨_, ⟨_, ⟨_, ⟨_, ⟨_, ⟨_, ⟨id, -, rfl⟩, name, -, rfl⟩, version, -, rfl⟩,
    startsAt, -, rfl⟩, triggers, -, rfl⟩, states, -, rfl⟩, metadata, -, rfl⟩,
    extensions, hextensions, rfl⟩ := hread
  intro e he
  rcases withDefault_read_eq_ok.1 (extensions_read hid hextensions) with ⟨-, rfl⟩ | ⟨k, d, -, hd⟩
  · cases he
  · obtain ⟨ds, -, hds⟩ := list_eq_ok.1 hd
    obtain ⟨i, hi, rfl⟩ := List.getElem_of_mem he
    obtain ⟨es, id, shape, hes, hid, hget, he⟩ := extension_eq_ok.1
      (anyExtension_eq_ok.1 (hds.get (hds.length_eq ▸ hi) hi))
    exact ⟨shape, extensionOf_id he hes hid ▸ hget, extensionOf_fields he⟩

end Decode
namespace Markup

open Canonical

variable {c : Codec} {s : Text} {w : Workflow}

/-- Whether a mapping to texts is written with strings for its keys. -/
def WithStringKeys (m : TextMap) (es : List (Text × Value)) : Prop := es = Member.writtenTexts m

/-- Whether a mapping to texts is written as it is. -/
def Unchanged (m : TextMap) (es : List (Text × Value)) : Prop :=
  es = m.entries.map fun e => (e.1, .text e.2)

theorem unchanged_writtenTexts {m : TextMap} :
    Unchanged m (Member.writtenTexts m) ↔ ∀ k ∈ m.keys, k.holdsHalf = false := by
  have hinj : Function.Injective fun e : Text × Text => (e.1, Value.text e.2) := by
    rintro ⟨k, t⟩ ⟨k', t'⟩ heq
    cases heq
    rfl
  rw [← Decode.stringKeys_eq_self, Unchanged, Decode.writtenTexts_eq_map,
    (List.map_injective_iff.2 hinj).eq_iff]
  obtain ⟨es, hes⟩ := Decode.stringKeys m
  obtain ⟨es', hes'⟩ := m
  rw [TextMap.mk.injEq]

theorem mirrors_of_decode (h : c.decode s = .ok (.ok w)) :
    Mirrors (w.node c.extensions) w.document (State.ownTextMaps w.allStates ++
      (w.metadata :: w.extensionValues.flatMap ExtensionValue.textMaps)) := by
  obtain ⟨d, hd⟩ := exists_document_of_decode h
  exact mirrors_workflow (Decode.exists_shape_of_workflow hd)

/-- A workflow that is read is written with its mappings as they are exactly if no key of theirs
holds a half of a pair. -/
theorem shows_unchanged_iff (h : c.decode s = .ok (.ok w)) :
    (w.node c.extensions).Shows Unchanged w.document ↔
      ∀ m ∈ w.textMaps, ∀ k ∈ m.keys, k.holdsHalf = false := by
  have hmirrors := mirrors_of_decode h
  have hempty (m : TextMap) (hm : m.entries = []) : Unchanged m (Member.writtenTexts m) := by
    rw [unchanged_writtenTexts, TextMap.keys, hm]
    simp
  rw [← hmirrors.written, Node.shows_written_iff hempty hmirrors.sound, hmirrors.textMaps]
  simp only [unchanged_writtenTexts, Workflow.textMaps, State.ownTextMaps, List.forall_mem_append,
    List.forall_mem_cons, List.cons_append]
  exact and_left_comm

/-- **The canonical form.**  For every workflow that is read, pruning finds each field and each item
of the dump in its place, so that the document has the shape of the workflow at every depth.  Its
mappings to texts are written with strings for keys: as they are, exactly if no key holds a half of
a pair. -/
theorem canonical_document (h : c.decode s = .ok (.ok w)) :
    (w.node c.extensions).prune (w.node c.extensions).dump = w.document ∧
      (w.node c.extensions).Shows WithStringKeys w.document ∧
        ((w.node c.extensions).Shows Unchanged w.document ↔
          ∀ m ∈ w.textMaps, ∀ k ∈ m.keys, k.holdsHalf = false) := by
  have hmirrors := mirrors_of_decode h
  refine ⟨?_, ?_, shows_unchanged_iff h⟩
  · rw [Node.prune_dump hmirrors.sound, hmirrors.written]
  · rw [← hmirrors.written]
    have hkeys (m : TextMap) : WithStringKeys m (Member.writtenTexts m) := rfl
    exact (Node.shows_written_iff (fun m _ => hkeys m) hmirrors.sound).2 fun m _ => hkeys m

/-- The canonical form of a workflow with a branch and a mapping, whose keys are kept. -/
theorem canonical_document_nested :
    (⟨.empty, none⟩ : Codec).decode nestedText = .ok (.ok nestedWorkflow) ∧
      (nestedWorkflow.node .empty).prune (nestedWorkflow.node .empty).dump =
          nestedWorkflow.document ∧
        (nestedWorkflow.node .empty).Shows WithStringKeys nestedWorkflow.document ∧
          (nestedWorkflow.node .empty).Shows Unchanged nestedWorkflow.document := by
  obtain ⟨hprune, hshows, hunchanged⟩ := canonical_document decode_nestedText
  exact ⟨decode_nestedText, hprune, hshows, hunchanged.2 holdsHalf_nestedWorkflow⟩

/-- The empty item of a list and the empty record are kept, the empty parameters are not. -/
example : (State.operation ⟨none, false, false⟩ .sequential
    [⟨none, none, none⟩, ⟨some ⟨none, none, .empty⟩, none, none⟩] none
    (some ⟨none, none, none⟩)).document =
      .map [(↑"type", .text ↑"OPERATION"), (↑"start", .bool false), (↑"end", .bool false),
        (↑"action-mode", .text ↑"SEQUENTIAL"),
        (↑"actions", .list [.map [], .map [(↑"function", .map [])]]), (↑"filter", .map [])] := by
  rfl

/-- Not every workflow that is read is written with its mappings as they are: a key with a half of a
pair is written as another one. -/
theorem not_forall_shows_unchanged :
    ¬ ∀ (c : Codec) (s : Text) (w : Workflow), c.decode s = .ok (.ok w) →
      (w.node c.extensions).Shows Unchanged w.document := by
  intro h
  have hhalf := (shows_unchanged_iff decode_halfKeyText).1 (h _ _ _ decode_halfKeyText)
  exact absurd (hhalf _ (List.mem_cons_self ..) _ (List.mem_cons_self ..)) (by decide)

end Markup
end WorkflowKit
