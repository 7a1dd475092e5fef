/-
# Workflows that are written as JSON and read again

The document that is written for a workflow is a plain value (`Renders.plain`): so its JSON text is
read as the document (`Json.read_write`), and this as `Workflow.back`.  The first attempt at reading
the text succeeds, and no second one takes place.
-/

import Mathlib
import WorkflowKit.Markup
import WorkflowKit.Proofs.Json.RoundTrip
import WorkflowKit.Proofs.Workflow.Content

namespace WorkflowKit
namespace Decode

variable {r : ExtensionRegistry}

/-- A truth value, an integer or a text. -/
def IsAtom : Value → Prop
  | .bool _ | .int _ | .text _ => True
  | _ => False

/-- Such a value is plain. -/
theorem IsAtom.plain {v : Value} (h : IsAtom v) : v.Plain := by
  cases v <;> trivial

/-- Whether the default of a field is a truth value, an integer or a text. -/
def FieldSpec.AtomDefault (s : FieldSpec) : Prop := ∀ v, s.fallback = some v → IsAtom v

/-- A field that may be left out has no default. -/
@[simp]
theorem FieldSpec.atomDefault_plain (name : FieldName) (c : Content) :
    (plain name c).AtomDefault := fun _ hv => nomatch hv

/-- The default of a flag is a truth value. -/
@[simp]
theorem FieldSpec.atomDefault_flag (name : FieldName) : (flag name).AtomDefault := by
  rintro _ ⟨⟩
  trivial

/-- The default of a word is a text. -/
@[simp]
theorem FieldSpec.atomDefault_words (name : FieldName) (ws : List String) :
    (words name ws).AtomDefault := by
  rintro _ hv
  obtain ⟨w, -, rfl⟩ := Option.map_eq_some_iff.1 hv
  trivial

/-- The default of a field of an extension record is an integer or a text, by its type. -/
@[simp]
theorem atomDefault_extensionSpec (name : String) (f : ExtensionField) :
    (extensionSpec name f).AtomDefault := by
  cases f <;> rintro _ ⟨⟩ <;> trivial

/-- The defaults of all parts are truth values, integers and texts. -/
theorem Part.atomDefault (p : Part) : ∀ s ∈ p.specs, s.AtomDefault := by
  cases p with
  | choice k => cases k <;> simp [specs, choiceSpecs, FieldSpec.kind]
  | state k => cases k <;> simp [specs, stateSpecs, FieldSpec.kind, FieldSpec.mode]
  | extension s =>
    rw [specs, List.forall_mem_cons, List.forall_mem_map]
    exact ⟨FieldSpec.atomDefault_plain _ _, fun f _ => atomDefault_extensionSpec _ _⟩
  | _ => simp [specs, FieldSpec.mode]

/-- **What is written is plain.** -/
theorem Renders.plain {c : Content} {d : Doc} {v : Value} (h : Renders r WrittenTexts c d v) :
    v.Plain := by
  induction h with
  | texts _ written =>
    obtain ⟨m, -, -, rfl⟩ := written
    rw [writtenTexts_eq_map]
    refine ⟨?_, Value.plainEntries_iff.2 fun e he => ?_⟩
    · rw [List.map_map]
      exact (stringKeys m).nodup
    · obtain ⟨e, -, rfl⟩ := List.mem_map.1 he
      trivial
  | list _ _ length _ ih =>
    refine Value.plainItems_iff.2 fun v hv => ?_
    obtain ⟨i, hi, rfl⟩ := List.getElem_of_mem hv
    exact ih i (length ▸ hi) hi
  | record _ _ _ _ nodup declared _ _ fallback ih =>
    refine ⟨nodup, Value.plainEntries_iff.2 fun ⟨t, v⟩ he => ?_⟩
    obtain ⟨s, hs, rfl⟩ := declared _ he
    cases hgiven : s.name.given? _ with
    | none => exact (Part.atomDefault _ s hs v ((fallback s hs hgiven v).1 he)).plain
    | some kd => exact ih s hs kd.1 kd.2 v hgiven he
  | _ => trivial

end Decode
namespace Markup

variable {c : Codec} {s t : Text} {w : Workflow}

/-- **What is written for a workflow is plain.** -/
theorem plain_document {r : ExtensionRegistry} {d : Doc}
    (h : Decode.workflow (some r) d = .ok w) : w.document.Plain :=
  (Decode.renders_workflow h).plain

/-! ### Attempts that succeed -/

/-- Without a resolver a document is taken as it is, however much room there is. -/
theorem resolveWithin_of_none (hc : c.resolver = none) (room : Option Template.Room) (d : Doc) :
    c.resolveWithin room d = .ok (.ok d) := by
  rw [Codec.resolveWithin, hc]

/-- A workflow is decoded from a document whose placeholders are replaced. -/
theorem ofDocument_eq_ok {d : Doc} (h : c.ofDocument d = .ok (.ok w)) :
    ∃ d', c.resolve d = .ok (.ok d') ∧ Decode.workflow (some c.extensions) d' = .ok w := by
  rw [Codec.ofDocument, Codec.ofDocumentWithin] at h
  split at h
  · rw [Codec.resolve]
    cases hr : c.resolveWithin none d with
    | error e => rw [hr] at h; cases h
    | ok x =>
      rw [hr] at h
      cases x with
      | error f => cases h
      | ok d' =>
        refine ⟨d', rfl, ?_⟩
        simp only [bind, Except.bind] at h
        split at h
        · next hw => rw [hw, Except.ok.inj (Except.ok.inj h)]
        · cases h
        · cases h
  · cases h

/-- An attempt succeeds exactly if the text is a document of the format and the document a workflow.
-/
theorem attempt_eq_ok {f : Format} :
    c.attempt f s = .ok (.ok w) ↔
      ∃ d, document f s = .ok (.ok d) ∧ c.ofDocument d = .ok (.ok w) := by
  rw [Codec.attempt]
  cases h : document f s with
  | error e => simp [bind, Except.bind]
  | ok x => cases x <;> simp [bind, Except.bind, pure, Except.pure]

/-- A workflow is read in the first attempt or in the second. -/
theorem decode_eq_ok :
    c.decode s = .ok (.ok w) ↔ c.attempt .json s = .ok (.ok w) ∨
      (∃ f, c.attempt .json s = .ok (.error f)) ∧ c.attempt .yaml s = .ok (.ok w) := by
  rw [Codec.decode]
  cases c.attempt .json s with
  | error e => simp [bind, Except.bind]
  | ok x =>
    cases x with
    | ok w' => simp [bind, Except.bind, pure, Except.pure]
    | error f =>
      cases c.attempt .yaml s with
      | error e => simp [bind, Except.bind]
      | ok y => cases y <;> simp [bind, Except.bind, pure, Except.pure]

/-- Whatever is read is decoded from a document. -/
theorem exists_document_of_decode (h : c.decode s = .ok (.ok w)) :
    ∃ d, Decode.workflow (some c.extensions) d = .ok w := by
  rcases decode_eq_ok.1 h with h | ⟨-, h⟩
  all_goals
    obtain ⟨d, -, h⟩ := attempt_eq_ok.1 h
    obtain ⟨d', -, hd'⟩ := ofDocument_eq_ok h
    exact ⟨d', hd'⟩

/-- The document of a JSON text is that of its value. -/
theorem document_json_eq_ok {d : Doc} (h : document .json s = .ok (.ok d)) :
    ∃ v, Json.read s = .ok v ∧ v.toDoc = d := by
  rw [document] at h
  split at h
  · next v hv =>
    cases h
    exact ⟨v, hv, rfl⟩
  · cases h
  · cases h

/-! ### Reading what is written -/

/-- The document that is written for a workflow is decoded again. -/
theorem ofDocument_toDoc (hc : c.resolver = none) {d : Doc}
    (h : Decode.workflow (some c.extensions) d = .ok w) :
    c.ofDocument w.document.toDoc = .ok (.ok w.back) := by
  have hmap : w.document.toDoc.unmarked = .map (Value.entriesToDoc _) := rfl
  simp only [Codec.ofDocument, Codec.ofDocumentWithin, hmap, resolveWithin_of_none hc, bind,
    Except.bind, Decode.workflow_document h]
  rfl

/-- A workflow is written unless one of its integers is too long. -/
theorem write_document (hw : ∀ n ∈ w.integers, Number.exceedsDigitLimit n = false) :
    Json.write w.document = .ok ⟨Json.written 0 w.document⟩ := by
  rw [Json.write, w.holdsLongInt_document, List.any_eq_false.2 (by simpa using hw),
    if_neg (by simp)]

/-- The JSON text of a workflow is read as its document. -/
theorem read_of_encode {d : Doc} (h : Decode.workflow (some c.extensions) d = .ok w)
    (ht : encode .json w = .ok t) : Json.read t = .ok w.document :=
  Json.read_write (plain_document h) ht

/-- **The JSON text of a workflow is read as the workflow, up to the keys of its mappings.** -/
theorem decode_of_encode (hc : c.resolver = none) {d : Doc}
    (h : Decode.workflow (some c.extensions) d = .ok w) (ht : encode .json w = .ok t) :
    c.decode t = .ok (.ok w.back) := by
  refine decode_eq_ok.2 (.inl (attempt_eq_ok.2 ⟨_, ?_, ofDocument_toDoc hc h⟩))
  rw [document, read_of_encode h ht]

/-- **The JSON round trip.** A workflow that is read can be written if none of its integers is too
long.  Its text is read as the same workflow exactly if no key of its mappings holds a half of a
pair. -/
theorem decode_encode_json (hc : c.resolver = none) (h : c.decode s = .ok (.ok w))
    (hw : ∀ n ∈ w.integers, Number.exceedsDigitLimit n = false) :
    ∃ t, encode .json w = .ok t ∧
      (c.decode t = .ok (.ok w) ↔ ∀ m ∈ w.textMaps, ∀ k ∈ m.keys, k.holdsHalf = false) := by
  obtain ⟨d, hd⟩ := exists_document_of_decode h
  have ht : encode .json w = .ok ⟨Json.written 0 w.document⟩ := write_document hw
  refine ⟨_, ht, ?_⟩
  rw [decode_of_encode hc hd ht, Except.ok.injEq, Except.ok.injEq, Workflow.back_eq_self]

/-- A text with a branch inside a parallel state, a default to be filled in, and a mapping. -/
def nestedText : Text :=
  ↑("\x7b\"metadata\": \x7b\"k\": \"v\"\x7d, \"states\": [\x7b\"type\": \"PARALLEL\", " ++
    "\"start\": true, \"branches\": [\x7b\"states\": [\x7b\"type\": \"END\"\x7d]\x7d]\x7d]\x7d")

/-- The workflow of `nestedText`. -/
def nestedWorkflow : Workflow where
  id := none
  name := none
  version := none
  startsAt := none
  triggers := []
  states := [.parallel ⟨none, true, false⟩
    [.mk none [.finish ⟨none, false, false⟩ .success] false] none]
  metadata := .ofEntries [(↑"k", ↑"v")]
  extensions := []

/-- The text is read as the workflow, with the default filled in. -/
theorem decode_nestedText :
    (⟨.empty, none⟩ : Codec).decode nestedText = .ok (.ok nestedWorkflow) := by
  cbv

/-- The workflow holds no integers, so it can be written. -/
theorem integers_nestedWorkflow : nestedWorkflow.integers = [] := by
  decide

/-- No key of its mapping holds a half of a pair. -/
theorem holdsHalf_nestedWorkflow :
    ∀ m ∈ nestedWorkflow.textMaps, ∀ k ∈ m.keys, k.holdsHalf = false := by
  decide

/-- A workflow without halves, with a branch inside a parallel state and a mapping, is read from its
JSON text as it is. -/
theorem decode_encode_json_nested :
    (⟨.empty, none⟩ : Codec).decode nestedText = .ok (.ok nestedWorkflow) ∧
      (∀ n ∈ nestedWorkflow.integers, Number.exceedsDigitLimit n = false) ∧
      ∃ t, encode .json nestedWorkflow = .ok t ∧
        (⟨.empty, none⟩ : Codec).decode t = .ok (.ok nestedWorkflow) := by
  have hintegers : ∀ n ∈ nestedWorkflow.integers, Number.exceedsDigitLimit n = false := by
    simp [integers_nestedWorkflow]
  obtain ⟨t, ht, hback⟩ := decode_encode_json rfl decode_nestedText hintegers
  exact ⟨decode_nestedText, hintegers, t, ht, hback.2 holdsHalf_nestedWorkflow⟩

/-- A text whose only key of a mapping is a half of a pair. -/
def halfKeyText : Text := ↑"\x7b\"metadata\":\x7b\"\\udc00\":\"x\"\x7d\x7d"

/-- The workflow of `halfKeyText`. -/
def halfKeyWorkflow : Workflow where
  id := none
  name := none
  version := none
  startsAt := none
  triggers := []
  states := []
  metadata := .ofEntries [(⟨[.half 0x400]⟩, ↑"x")]
  extensions := []

/-- The text is read as the workflow, whose key holds a half of a pair. -/
theorem decode_halfKeyText :
    (⟨.empty, none⟩ : Codec).decode halfKeyText = .ok (.ok halfKeyWorkflow) := by
  cbv

/-- Not every workflow that is read is read again from its JSON text: a key with a half of a pair
comes back as another one. -/
theorem not_forall_decode_encode_json :
    ¬ ∀ (c : Codec) (s : Text) (w : Workflow), c.resolver = none → c.decode s = .ok (.ok w) →
      (∀ n ∈ w.integers, Number.exceedsDigitLimit n = false) →
        ∃ t, encode .json w = .ok t ∧ c.decode t = .ok (.ok w) := by
  intro h
  obtain ⟨t, ht, hw⟩ := h ⟨.empty, none⟩ halfKeyText halfKeyWorkflow rfl decode_halfKeyText
    (by simp [Workflow.integers, Workflow.allStates, Workflow.extensionValues, halfKeyWorkflow,
      State.allWithInner])
  obtain ⟨d, hd⟩ := exists_document_of_decode decode_halfKeyText
  rw [decode_of_encode rfl hd ht, Except.ok.injEq, Except.ok.injEq, Workflow.back_eq_self] at hw
  exact absurd (hw _ (List.mem_cons_self ..) _ (List.mem_cons_self ..)) (by decide)

end Markup
end WorkflowKit
