/-
# Nothing is lost and nothing invented

What is written for a JSON text renders what was given (`Renders`), with mappings to texts taken
literally: the same keys in the same order, and for each value its text (`SameTexts`).  This holds
exactly if no key in the text holds a half of a pair (`renders_json`): in the place of a half,
replacement characters are written, and keys may become one.
-/

import WorkflowKit.Proofs.Json.Keys
import WorkflowKit.Proofs.Markup.Json

namespace WorkflowKit
namespace Decode

variable {r : ExtensionRegistry}

/-- Whether no key holds a half of a pair. -/
def WholeKeys (ks : List Text) : Prop := ∀ k ∈ ks, k.holdsHalf = false

/-- The mapping that is written has the keys of the one that is given, in the same order, and the
texts of its values. -/
def SameTexts (es : List (Scalar × Doc)) (cs : List (Text × Value)) : Prop :=
  cs ≠ [] ∧ List.Forall₂ (fun e f => e.1 = .text f.1 ∧ ∃ s t, e.2.unmarked = .scalar s ∧
    scalarText? s = some t ∧ f.2 = .text t) es cs

/-! ### Documents of plain values -/

theorem toDoc_unmarked_eq_map {x : Value} {es : List (Scalar × Doc)}
    (h : x.toDoc.unmarked = .map es) : ∃ xs, x = .map xs ∧ es = Value.entriesToDoc xs := by
  cases x <;> cases h
  exact ⟨_, rfl, rfl⟩

theorem toDoc_unmarked_eq_scalar {x : Value} {s : Scalar} (h : x.toDoc.unmarked = .scalar s)
    {p : List Text → Prop} : x.KeysAll p := by
  cases x with
  | list | map => cases h
  | _ => trivial

theorem toDoc_items?_eq_some {x : Value} {ds : List Doc} (h : items? x.toDoc = some ds) :
    ∃ xs, x = .list xs ∧ ds = xs.map Value.toDoc := by
  cases x <;> cases h
  exact ⟨_, rfl, Value.itemsToDoc_eq_map _⟩

theorem field?_of_given? {name : FieldName} {es : List (Scalar × Doc)} {k : String} {d : Doc}
    (h : name.given? es = some (k, d)) : Doc.field? (.ofString k) es = some d := by
  rw [FieldName.given?] at h
  split at h
  · next hd =>
    cases h
    exact hd
  · obtain ⟨d', hd', h⟩ := Option.map_eq_some_iff.1 h
    cases h
    exact hd'

/-- A field of a mapping is the document of one of its values. -/
theorem exists_mem_of_field? {xs : List (Text × Value)} {t : Text} {d : Doc}
    (h : Doc.field? t (Value.entriesToDoc xs) = some d) : ∃ e ∈ xs, d = e.2.toDoc := by
  rw [Value.entriesToDoc_eq_map] at h
  obtain ⟨e, he, rfl⟩ := Option.map_eq_some_iff.1 h
  obtain ⟨e, hmem, rfl⟩ := List.mem_map.1 (List.mem_of_find?_eq_some he)
  exact ⟨e, hmem, rfl⟩

theorem IsAtom.keysAll {p : List Text → Prop} {v : Value} (h : IsAtom v) : v.KeysAll p := by
  cases v <;> trivial

/-- What is read as an integer or as a truth value has no keys. -/
theorem keysAll_of_integer {p : List Text → Prop} {x : Value} {n : Int}
    (h : integer x.toDoc = .ok n) : x.KeysAll p := by
  cases x with
  | list | map => exact absurd h Checked.fail_ne_ok
  | _ => trivial

theorem keysAll_of_truth {p : List Text → Prop} {x : Value} {b : Bool}
    (h : truth x.toDoc = .ok b) : x.KeysAll p := by
  cases x with
  | list | map => exact absurd h Checked.fail_ne_ok
  | _ => trivial

/-! ### Keys that hold a half -/

/-- The keys that are written hold no half. -/
theorem Renders.wholeKeys {c : Content} {d : Doc} {v : Value} (h : Renders r WrittenTexts c d v) :
    v.KeysAll WholeKeys := by
  induction h with
  | texts _ written =>
    obtain ⟨m, -, -, rfl⟩ := written
    rw [writtenTexts_eq_map]
    refine ⟨?_, Value.entriesKeysAll_iff.2 (List.forall_mem_map.2 fun _ _ => trivial)⟩
    rw [WholeKeys, List.map_map]
    exact List.forall_mem_map.2 fun e he => holdsHalf_of_mem_stringKeys (List.mem_map_of_mem he)
  | list _ _ length _ ih =>
    refine Value.itemsKeysAll_iff.2 fun v hv => ?_
    obtain ⟨i, hi, rfl⟩ := List.getElem_of_mem hv
    exact ih i (length ▸ hi) hi
  | record _ _ _ _ _ declared _ _ fallback ih =>
    refine ⟨List.forall_mem_map.2 fun e he => ?_, Value.entriesKeysAll_iff.2 fun ⟨t, v⟩ he => ?_⟩
    · obtain ⟨s, -, hs⟩ := declared e he
      exact hs ▸ Text.holdsHalf_ofString _
    · obtain ⟨s, hs, rfl⟩ := declared _ he
      cases hgiven : s.name.given? _ with
      | none => exact (Part.atomDefault _ s hs v ((fallback s hs hgiven v).1 he)).keysAll
      | some kd => exact ih s hs kd.1 kd.2 v hgiven he
  | _ => trivial

/-- A mapping whose keys are distinct and hold no half is written literally. -/
theorem sameTexts_of_writtenTexts {xs : List (Text × Value)} {cs : List (Text × Value)}
    (h : WrittenTexts (Value.entriesToDoc xs) cs) (hnd : (xs.map Prod.fst).Nodup)
    (hw : WholeKeys (xs.map Prod.fst)) : SameTexts (Value.entriesToDoc xs) cs := by
  obtain ⟨m, hm, hne, rfl⟩ := h
  obtain ⟨es, qs, hes, hqs, rfl⟩ := texts_eq_ok.1 hm
  cases hes
  rw [Value.entriesToDoc_eq_map, List.forall₂_map_left_iff] at hqs
  have hkeys : xs.map Prod.fst = qs.map Prod.fst := by
    rw [← List.forall₂_eq_eq_eq, List.forall₂_map_left_iff, List.forall₂_map_right_iff]
    exact hqs.imp fun x q h => Except.ok.inj h.1
  have hof : (TextMap.ofEntries qs).entries = qs := distinctEntries_of_nodup (hkeys ▸ hnd)
  have hsame : stringKeys (.ofEntries qs) = .ofEntries qs := by
    rw [stringKeys_eq_self, TextMap.keys, hof, ← hkeys]
    exact hw
  rw [writtenTexts_eq_map, hsame, hof]
  refine ⟨by simpa [hof] using hne, ?_⟩
  rw [Value.entriesToDoc_eq_map, List.forall₂_map_left_iff, List.forall₂_map_right_iff]
  refine hqs.imp fun x q h => ⟨congrArg _ (Except.ok.inj h.1), ?_⟩
  obtain ⟨s, hs, ht⟩ := text_eq_ok h.2
  exact ⟨s, q.2, hs, ht, rfl⟩

/-- Mappings are written literally if no key that is given holds a half. -/
theorem Renders.same_of_wholeKeys {c : Content} {d : Doc} {v : Value}
    (h : Renders r WrittenTexts c d v) :
    ∀ x : Value, d = x.toDoc → x.KeysAll List.Nodup → x.KeysAll WholeKeys →
      Renders r SameTexts c d v := by
  induction h with
  | text given same => exact fun _ _ _ _ => .text given same
  | plainText given same => exact fun _ _ _ _ => .plainText given same
  | count same nonneg => exact fun _ _ _ _ => .count same nonneg
  | integer same => exact fun _ _ _ _ => .integer same
  | truth same => exact fun _ _ _ _ => .truth same
  | word given same mem => exact fun _ _ _ _ => .word given same mem
  | texts given written =>
    rintro x rfl hnd hw
    obtain ⟨xs, rfl, rfl⟩ := toDoc_unmarked_eq_map given
    exact .texts given (sameTexts_of_writtenTexts written hnd.1 hw.1)
  | list given ne_nil length _ ih =>
    rintro x rfl hnd hw
    obtain ⟨xs, rfl, rfl⟩ := toDoc_items?_eq_some given
    refine .list given ne_nil length fun i hd hv => ?_
    have hi : i < xs.length := by simpa using hd
    have hmem : xs[i] ∈ xs := List.getElem_mem _
    exact ih i hd hv _ (List.getElem_map _) (Value.itemsKeysAll_iff.1 hnd _ hmem)
      (Value.itemsKeysAll_iff.1 hw _ hmem)
  | record given admits known once nodup declared _ kept fallback ih =>
    rintro x rfl hnd hw
    obtain ⟨xs, rfl, rfl⟩ := toDoc_unmarked_eq_map given
    refine .record given admits known once nodup declared (fun s hs k d v hgiven hv => ?_) kept
      fallback
    obtain ⟨e, he, rfl⟩ := exists_mem_of_field? (field?_of_given? hgiven)
    exact ih s hs k _ v hgiven hv e.2 rfl (Value.entriesKeysAll_iff.1 hnd.2 e he)
      (Value.entriesKeysAll_iff.1 hw.2 e he)

/-- What counts as nothing has no keys. -/
theorem Content.Drops.wholeKeys {c : Content} {x : Value} (h : c.Drops x.toDoc) :
    x.KeysAll WholeKeys := by
  cases c with
  | list c =>
    obtain ⟨xs, rfl, hxs⟩ := toDoc_items?_eq_some h
    rw [List.map_eq_nil_iff.1 hxs.symm]
    trivial
  | texts =>
    obtain ⟨xs, rfl, hxs⟩ := toDoc_unmarked_eq_map h
    rw [Value.entriesToDoc_eq_map] at hxs
    rw [List.map_eq_nil_iff.1 hxs.symm]
    exact ⟨nofun, trivial⟩
  | _ => exact toDoc_unmarked_eq_scalar h

/-- If mappings are written literally, no key that is given holds a half. -/
theorem Renders.wholeKeys_of_same {c : Content} {d : Doc} {v : Value}
    (h : Renders r SameTexts c d v) :
    v.KeysAll WholeKeys → ∀ x : Value, d = x.toDoc → x.KeysAll List.Nodup →
      x.KeysAll WholeKeys := by
  induction h with
  | text given | plainText given | word given =>
    rintro - x rfl -
    exact toDoc_unmarked_eq_scalar given
  | count same | integer same =>
    rintro - x rfl -
    exact keysAll_of_integer same
  | truth same =>
    rintro - x rfl -
    exact keysAll_of_truth same
  -- The only place where a key is compared: what is written there has the keys of what is given.
  | @texts _ _ cs given written =>
    rintro hv x rfl -
    obtain ⟨xs, rfl, rfl⟩ := toDoc_unmarked_eq_map given
    have htexts := written.2
    rw [Value.entriesToDoc_eq_map, List.forall₂_map_left_iff] at htexts
    refine ⟨?_, Value.entriesKeysAll_iff.2 fun e he => ?_⟩
    · have hkeys : xs.map Prod.fst = cs.map Prod.fst := by
        rw [← List.forall₂_eq_eq_eq, List.forall₂_map_left_iff, List.forall₂_map_right_iff]
        exact htexts.imp fun x f h => Scalar.text.inj h.1
      exact hkeys ▸ hv.1
    · obtain ⟨i, hi, rfl⟩ := List.getElem_of_mem he
      obtain ⟨-, s, -, hs, -⟩ := htexts.get hi (htexts.length_eq ▸ hi)
      exact toDoc_unmarked_eq_scalar hs
  | list given _ length _ ih =>
    rintro hv x rfl hnd
    obtain ⟨xs, rfl, rfl⟩ := toDoc_items?_eq_some given
    refine Value.itemsKeysAll_iff.2 fun y hy => ?_
    obtain ⟨i, hi, rfl⟩ := List.getElem_of_mem hy
    rw [List.length_map] at length
    exact ih i (by simpa using hi) (length ▸ hi)
      (Value.itemsKeysAll_iff.1 hv _ (List.getElem_mem _)) _ (List.getElem_map _)
      (Value.itemsKeysAll_iff.1 hnd _ hy)
  | record given _ known _ _ _ _ kept _ ih =>
    rintro hv x rfl hnd
    obtain ⟨xs, rfl, rfl⟩ := toDoc_unmarked_eq_map given
    -- The keys of a record are names of fields, which are strings.
    have hentry : ∀ e ∈ xs, e.1.holdsHalf = false ∧ e.2.KeysAll WholeKeys := by
      intro e he
      obtain ⟨s, hs, k, d, hgiven, hk⟩ := known (.text e.1, e.2.toDoc)
        (Value.entriesToDoc_eq_map xs ▸ List.mem_map_of_mem he)
      have hke : e.1 = .ofString k := Scalar.text.inj hk
      have hd : d = e.2.toDoc := by
        have hfield := field?_of_given? hgiven
        rw [← hke, field?_entriesToDoc hnd.1 he] at hfield
        exact (Option.some.inj hfield).symm
      subst hd
      refine ⟨hke ▸ Text.holdsHalf_ofString _, ?_⟩
      -- A field that counts as nothing is not written, so the induction does not reach it; but then
      -- it holds no keys at all.
      by_cases hdrops : s.content.Drops e.2.toDoc
      · exact hdrops.wholeKeys
      · obtain ⟨v, hmem⟩ := kept s hs k _ hgiven hdrops
        exact ih s hs k _ v hgiven hmem (Value.entriesKeysAll_iff.1 hv.2 _ hmem) e.2 rfl
          (Value.entriesKeysAll_iff.1 hnd.2 e he)
    exact ⟨List.forall_mem_map.2 fun e he => (hentry e he).1,
      Value.entriesKeysAll_iff.2 fun e he => (hentry e he).2⟩

end Decode

namespace Markup

variable {c : Codec} {s : Text} {w : Workflow}

open Decode (Renders WrittenTexts SameTexts WholeKeys)

/-- What a JSON text is decoded from, if nothing is replaced in it. -/
theorem exists_value_of_attempt (hc : c.resolver = none) (h : c.attempt .json s = .ok (.ok w)) :
    ∃ v, Json.read s = .ok v ∧ Decode.workflow (some c.extensions) v.toDoc = .ok w := by
  obtain ⟨d, hd, h⟩ := attempt_eq_ok.1 h
  obtain ⟨v, hv, rfl⟩ := document_json_eq_ok hd
  obtain ⟨d', hd', hw⟩ := ofDocument_eq_ok h
  rw [Codec.resolve, resolveWithin_of_none hc] at hd'
  cases hd'
  exact ⟨v, hv, hw⟩

/-- **Nothing is lost and nothing invented.** If a JSON text is read in the first attempt, then what
is written for the workflow renders what was given, up to the keys of mappings to texts.  These
are kept exactly if no key of the text holds a half of a pair. -/
theorem renders_json (hc : c.resolver = none) (h : c.attempt .json s = .ok (.ok w)) :
    ∃ v, Json.read s = .ok v ∧
      Renders c.extensions WrittenTexts (.part .workflow) v.toDoc w.document ∧
        (Renders c.extensions SameTexts (.part .workflow) v.toDoc w.document ↔
          v.KeysAll WholeKeys) := by
  obtain ⟨v, hv, hd⟩ := exists_value_of_attempt hc h
  have hr := Decode.renders_workflow hd
  have hnd := Json.read_keysAll hv
  exact ⟨v, hv, hr, fun hs => hs.wholeKeys_of_same hr.wholeKeys v rfl hnd,
    hr.same_of_wholeKeys v rfl hnd⟩

theorem attempt_nestedText :
    (⟨.empty, none⟩ : Codec).attempt .json nestedText = .ok (.ok nestedWorkflow) := by
  cbv

/-- A text with defaults to be filled in and without halves: what is written for its workflow
renders it with the keys of its mappings. -/
theorem renders_json_nested :
    (⟨.empty, none⟩ : Codec).attempt .json nestedText = .ok (.ok nestedWorkflow) ∧
      ∃ v, Json.read nestedText = .ok v ∧
        Renders .empty WrittenTexts (.part .workflow) v.toDoc nestedWorkflow.document ∧
          Renders .empty SameTexts (.part .workflow) v.toDoc nestedWorkflow.document := by
  obtain ⟨v, hv, hwritten, hsame⟩ := renders_json rfl attempt_nestedText
  have hread : Json.read nestedText = .ok (.map [(↑"metadata", .map [(↑"k", .text ↑"v")]),
      (↑"states", .list [.map [(↑"type", .text ↑"PARALLEL"), (↑"start", .bool true),
        (↑"branches", .list [.map [(↑"states", .list [.map [(↑"type", .text ↑"END")]])]])]])]) := by
    cbv
  have hkeys : v.KeysAll WholeKeys := by
    cases hv.symm.trans hread
    simp +decide [Value.KeysAll, Value.EntriesKeysAll, Value.ItemsKeysAll, WholeKeys]
  exact ⟨attempt_nestedText, v, hv, hwritten, hsame.2 hkeys⟩

/-- Not every JSON text is rendered with the keys of its mappings: a key with a half of a pair is
written as another one. -/
theorem not_forall_renders_json :
    ¬ ∀ (c : Codec) (s : Text) (w : Workflow) (v : Value), c.resolver = none →
      c.attempt .json s = .ok (.ok w) → Json.read s = .ok v →
        Renders c.extensions SameTexts (.part .workflow) v.toDoc w.document := by
  intro h
  have hread : Json.read halfKeyText =
      .ok (.map [(↑"metadata", .map [(⟨[.half 0x400]⟩, .text ↑"x")])]) := by
    cbv
  have hs := h ⟨.empty, none⟩ halfKeyText halfKeyWorkflow _ rfl (by cbv) hread
  obtain ⟨d, hd⟩ := exists_document_of_decode decode_halfKeyText
  have hw := hs.wholeKeys_of_same (Decode.renders_workflow hd).wholeKeys _ rfl
    (Json.read_keysAll hread)
  exact absurd (hw.2.1.1 ⟨[.half 0x400]⟩ (List.mem_cons_self ..)) (by decide)

end Markup
end WorkflowKit
