/-
# Documents in another order

If the states and the triggers of a workflow that was read are put into another order, the result is
what is read from another document: the one whose lists are in that order (`exists_workflow_perm`).
So whatever is known of workflows that are read holds for it as well.

The other document has the same keys.  Only the values of two fields change (`withValues`), and all
other fields are read as before.
-/

import Mathlib.Data.List.Perm.Basic
import WorkflowKit.Proofs.Decode.Workflow

namespace WorkflowKit
namespace Decode

variable {α : Type} {r : ExtensionRegistry} {dec : Decoder α} {as bs : List α}
  {change : Scalar → Doc → Doc} {es : List (Scalar × Doc)} {name : FieldName}

/-- A list in another order is read from a document in that order. -/
theorem exists_list_perm {d : Doc} (h : list dec d = .ok as) (hp : bs.Perm as) :
    ∃ d', list dec d' = .ok bs := by
  obtain ⟨ds, -, hds⟩ := list_eq_ok.1 h
  obtain ⟨ds', hds', -⟩ := List.perm_comp_forall₂ hp hds.flip
  exact ⟨.list ds', list_eq_ok.2 ⟨ds', rfl, hds'.flip⟩⟩

/-! ### Entries with other values -/

/-- Entries with the same keys and other values. -/
def withValues (change : Scalar → Doc → Doc) (es : List (Scalar × Doc)) : List (Scalar × Doc) :=
  es.map fun e => (e.1, change e.1 e.2)

theorem field?_withValues (key : Text) :
    Doc.field? key (withValues change es) = (Doc.field? key es).map (change (.text key)) := by
  induction es with
  | nil => rfl
  | cons e es ih =>
    obtain ⟨k, d⟩ := e
    cases k with
    | text s =>
      by_cases hs : s = key
      · subst hs
        simp [Doc.field?, withValues]
      · simpa [Doc.field?, withValues, hs] using ih
    | _ => exact ih

theorem given?_withValues :
    name.given? (withValues change es) =
      (name.given? es).map fun p => (p.1, change (.text (.ofString p.1)) p.2) := by
  rw [FieldName.given?, FieldName.given?, field?_withValues, field?_withValues]
  cases Doc.field? name.key es <;> cases Doc.field? name.second es <;> rfl

theorem usedNames_withValues (names : List FieldName) :
    usedNames names (withValues change es) = usedNames names es := by
  rw [usedNames, usedNames]
  refine congrArg (List.filterMap · names) (funext fun f => ?_)
  rw [given?_withValues, Option.map_map]
  rfl

/-- A record with other values is read if its fields are. -/
theorem ofEntries_withValues {fields : Fields α} {a b : α} (h : ofEntries fields es = .ok a)
    (hread : fields.read (withValues change es) = .ok b) :
    ofEntries fields (withValues change es) = .ok b := by
  obtain ⟨hwhole, hused, -⟩ := ofEntries_eq_ok.1 h
  rw [ofEntries_eq_ok, usedNames_withValues]
  refine ⟨fun e he => ?_, fun e he => ?_, hread⟩
  all_goals obtain ⟨f, hf, rfl⟩ := List.mem_map.1 he
  · exact hwhole f hf
  · exact hused f hf

theorem fst_of_given? {p : String × Doc} (h : name.given? es = some p) :
    p.1 = name.key ∨ p.1 = name.second := by
  rw [FieldName.given?] at h
  split at h
  · cases h
    exact .inl rfl
  · obtain ⟨d, -, rfl⟩ := Option.map_eq_some_iff.1 h
    exact .inr rfl

/-- A field whose values stay is read as before. -/
theorem withDefault_withValues {fallback : α}
    (h : ∀ k, k = name.key ∨ k = name.second → ∀ d, change (.text (.ofString k)) d = d) :
    (withDefault name fallback dec).read (withValues change es) =
      (withDefault name fallback dec).read es := by
  simp only [withDefault, given?_withValues]
  cases hgiven : name.given? es with
  | none => rfl
  | some p =>
    have hvalue := h p.1 (fst_of_given? hgiven) p.2
    simp only [Option.map_some, hvalue]

/-- A field with a list is read in another order once its value is replaced. -/
theorem exists_withDefault_perm (h : (withDefault name [] (list dec)).read es = .ok as)
    (hp : bs.Perm as) :
    ∃ d', ∀ change : Scalar → Doc → Doc,
      (∀ k, k = name.key ∨ k = name.second → ∀ d, change (.text (.ofString k)) d = d') →
      (withDefault name [] (list dec)).read (withValues change es) = .ok bs := by
  rcases withDefault_read_eq_ok.1 h with ⟨hnone, rfl⟩ | ⟨k, d, hgiven, hd⟩
  · obtain rfl := List.perm_nil.1 hp
    refine ⟨.list [], fun change _ => withDefault_read_eq_ok.2 (.inl ⟨?_, rfl⟩)⟩
    rw [given?_withValues, hnone]
    rfl
  · obtain ⟨d', hd'⟩ := exists_list_perm hd hp
    refine ⟨d', fun change hchange => withDefault_read_eq_ok.2 (.inr ⟨k, d', ?_, hd'⟩)⟩
    rw [given?_withValues, hgiven]
    exact congrArg (fun d' => some (k, d')) (hchange k (fst_of_given? hgiven) d)

/-! ### Workflows -/

/-- Replaces the values of the states and of the triggers. -/
def replacing (states triggers : Doc) : Scalar → Doc → Doc
  | .text k, d =>
    if k = ↑"states" then states
    else if k = ↑"trigger-defs" ∨ k = ↑"trigger_defs" then triggers
    else d
  | _, d => d

/-- The other fields keep their values. -/
theorem withDefault_replacing {states triggers : Doc} {fallback : α}
    (h : ∀ k ∈ [name.key, name.second], k ∉ ["states", "trigger-defs", "trigger_defs"]) :
    (withDefault name fallback dec).read (withValues (replacing states triggers) es) =
      (withDefault name fallback dec).read es := by
  refine withDefault_withValues fun k hk d => ?_
  have hother := h k (by simpa using hk)
  simp only [List.mem_cons, List.not_mem_nil, or_false, not_or] at hother
  simp [replacing, Text.ofString_inj, hother]

/-- **A workflow that was read is read in any order of its states and triggers**, from some
document. -/
theorem exists_workflow_perm {d : Doc} {w : Workflow} {ss : List State} {ts : List Trigger}
    (h : workflow (some r) d = .ok w) (hs : ss.Perm w.states) (ht : ts.Perm w.triggers) :
    ∃ d', workflow (some r) d' = .ok { w with states := ss, triggers := ts } := by
  obtain ⟨es, -, hid, h⟩ := workflow_eq_ok.1 h
  have hread := (ofEntries_eq_ok.1 h).2.2
  simp only [workflowFields, maybe, Fields.map_read_eq_ok, Fields.seq_read_eq_ok] at hread
  obtain ⟨_, ⟨_, ⟨_, ⟨_, ⟨_, ⟨_, ⟨_, ⟨id, h₁, rfl⟩, name, h₂, rfl⟩, version, h₃, rfl⟩,
    startsAt, h₄, rfl⟩, triggers, h₅, rfl⟩, states, h₆, rfl⟩, metadata, h₇, rfl⟩,
    extensions, h₈, rfl⟩ := hread
  obtain ⟨dt, hdt⟩ := exists_withDefault_perm h₅ ht
  obtain ⟨ds, hds⟩ := exists_withDefault_perm h₆ hs
  -- The document with the lists of states and triggers put in another order, and all else as it
  -- was.
  refine ⟨.map (withValues (replacing ds dt) es), workflow_eq_ok.2 ⟨_, rfl, ?_, ?_⟩⟩
  · rw [collectionId?, field?_withValues]
    have hstays (d : Doc) : replacing ds dt (.text ↑"extensions") d = d := by
      simp [replacing, Text.ofString_inj]
    rw [funext hstays, Option.map_id_fun']
    exact hid
  · refine ofEntries_withValues h ?_
    have hstates := hds (replacing ds dt) fun k hk d => by
      simp only [same_key, same_second, or_self] at hk
      simp [replacing, hk]
    have htriggers := hdt (replacing ds dt) fun k hk d => by
      rcases hk with rfl | rfl <;> simp [replacing, Text.ofString_inj]
    rw [workflowFields, Fields.seq_read, Fields.seq_read, Fields.seq_read, Fields.seq_read,
      Fields.seq_read, Fields.seq_read, Fields.seq_read, Fields.map_read, maybe, maybe, maybe,
      maybe, withDefault_replacing (by decide), h₁, withDefault_replacing (by decide), h₂,
      withDefault_replacing (by decide), h₃, withDefault_replacing (by decide), h₄, htriggers,
      hstates, withDefault_replacing (by decide), h₇, withDefault_replacing (by decide), h₈]
    rfl

end Decode
end WorkflowKit
