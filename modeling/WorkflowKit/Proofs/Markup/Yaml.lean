/-
# Workflows that are written as YAML and read again

The document of a workflow is a mapping whose keys are names of fields.  So its YAML text begins
with a word that begins no JSON text, unless it is empty: the first attempt at reading the text
fails, and the second one reads the document (`Yaml.read_write`), if its texts are legible.
-/

import WorkflowKit.Proofs.Markup.Json
import WorkflowKit.Proofs.Yaml.RoundTrip

namespace WorkflowKit

namespace Json

/-- A text that begins with a small letter is a word or a number, or it is malformed. -/
theorem read_of_isLower {a : Char} {ps : List CodePoint} {f : Fault} (ha : a.isLower = true)
    (h : atom asValue ⟨0, .char a :: ps⟩ = .error f) : read ⟨.char a :: ps⟩ = .error f := by
  have hne {c : Char} (hc : c.isLower = false) : a ≠ c := by
    rintro rfl
    exact Bool.false_ne_true (hc.symm.trans ha)
  have hgap : skipGap 0 (.char a :: ps) = ⟨0, .char a :: ps⟩ :=
    if_neg (by simp [CodePoint.isCharWith, isGap, hne])
  have hvalue (fuel : Nat) : value asValue (fuel + 1) ⟨0, .char a :: ps⟩ = .error f := by
    rw [value, ← h]
    split
    iterate 3
      next hrest => exact absurd (CodePoint.char.inj (List.cons.inj hrest).1) (hne rfl)
    rfl
  rw [read]
  split
  · next hmark => exact absurd (CodePoint.char.inj (List.cons.inj hmark).1) (hne (by decide))
  · rw [hgap, hvalue]
    rfl

end Json

namespace Yaml

open Page

/-- The text of a mapping begins with its first key. -/
theorem write_eq_append {k : Text} {v : Value} {es : List (Text × Value)} {s : String}
    (hk : isSimpleKey k = true) (h : write (.map ((k, v) :: es)) = .ok s) :
    ∃ cs, s.toList = keyText k ++ ':' :: cs := by
  rw [write] at h
  split at h
  · cases h
  · obtain rfl := Except.ok.inj h
    obtain ⟨e, he⟩ : ∃ e, e = (writeEntries 0 .empty ((k, v) :: es)).indent 0 := ⟨_, rfl⟩
    have hkey : (writeKey 0 k .empty).put [':'] ≤ e := by
      rw [he, writeEntries_cons, show Page.empty.indent 0 = .empty from rfl,
        keyed_of_isSimpleKey hk]
      exact (put_le_indicator_bare ..).trans
        ((le_writeNode ..).trans ((le_writeEntries ..).trans (le_indent ..)))
    have hwritten : ((writeKey 0 k .empty).put [':']).written =
        (keyText k ++ [':']).reverse ++ Page.empty.written := by
      rw [writeKey_eq hk rfl]
      simp [insideText, put]
    have hrest := rest_eq_of_le hkey hwritten
    rw [List.append_assoc] at hrest
    refine ⟨e.rest ((writeKey 0 k .empty).put [':']), ?_⟩
    rw [Page.text, String.toList_ofList]
    exact (congrArg (fun p => p.written.reverse) he.symm).trans hrest

end Yaml

namespace Markup

variable {c : Codec} {s t : Text} {w : Workflow}

/-- The names of the fields of a workflow. -/
def fieldNames : List String :=
  ["id", "name", "version", "starts-at", "trigger-defs", "states", "metadata", "extensions"]

/-- The keys of the document of a workflow. -/
theorem document_eq_map (w : Workflow) :
    ∃ es, w.document = .map es ∧ ∀ e ∈ es, ∃ name ∈ fieldNames, e.1 = .ofString name := by
  obtain ⟨ms, hms, hnames⟩ : ∃ ms, w.document = .ofMembers ms ∧ ms.map Prod.fst = fieldNames :=
    ⟨_, rfl, rfl⟩
  refine ⟨_, hms, fun e he => ?_⟩
  obtain ⟨m, hm, hentry⟩ := List.mem_filterMap.1 he
  obtain ⟨v, -, rfl⟩ := Option.map_eq_some_iff.1 hentry
  exact ⟨m.1, hnames ▸ List.mem_map_of_mem hm, rfl⟩

/-- The name of a field is written on one line as it is. -/
theorem keyText_fieldName : ∀ name ∈ fieldNames, Yaml.isSimpleKey (.ofString name) = true ∧
    Yaml.Page.keyText (.ofString name) = name.toList := by
  decide +kernel

/-- The name of a field begins no JSON text. -/
theorem read_fieldName {name : String} (h : name ∈ fieldNames) (ps : List CodePoint) :
    Json.read ⟨name.toList.map .char ++ .char ':' :: ps⟩ = .error (.malformed .noValue 0) := by
  simp only [fieldNames, List.mem_cons, List.not_mem_nil, or_false] at h
  rcases h with rfl | rfl | rfl | rfl | rfl | rfl | rfl | rfl <;>
    exact Json.read_of_isLower rfl rfl

/-- What is written as YAML is a string. -/
theorem write_yaml_eq_ok {v : Value} (h : write .yaml v = .ok t) :
    ∃ s, Yaml.write v = .ok s ∧ Text.ofString s = t := by
  rw [write] at h
  cases hs : Yaml.write v with
  | error f =>
    rw [hs] at h
    cases h
  | ok s =>
    rw [hs] at h
    exact ⟨s, rfl, Except.ok.inj h⟩

/-- **The YAML text of a workflow is no JSON text**, unless nothing of the workflow is written. -/
theorem attempt_json_of_encode_yaml {e : Text × Value} {es : List (Text × Value)}
    (hdocument : w.document = .map (e :: es)) (ht : encode .yaml w = .ok t) :
    ∃ f, c.attempt .json t = .ok (.error f) := by
  obtain ⟨cs, hmap, hkeys⟩ := document_eq_map w
  obtain rfl := Value.map.inj (hdocument.symm.trans hmap)
  obtain ⟨name, hname, hkey⟩ := hkeys e (List.mem_cons_self ..)
  obtain ⟨hsimple, htext⟩ := keyText_fieldName name hname
  obtain ⟨s, hs, rfl⟩ := write_yaml_eq_ok ht
  obtain ⟨k, v⟩ := e
  obtain rfl : k = .ofString name := hkey
  rw [hdocument] at hs
  obtain ⟨rest, hrest⟩ := Yaml.write_eq_append hsimple hs
  have hread : Json.read (.ofString s) = .error (.malformed .noValue 0) := by
    rw [Text.ofString, Text.ofChars, hrest, htext, List.map_append]
    exact read_fieldName hname _
  refine ⟨.unreadable (Json.locate (.ofString s) .noValue 0), ?_⟩
  rw [Codec.attempt, document, hread]
  rfl

/-- **The YAML text of a workflow is read as the workflow, up to the keys of its mappings.** -/
theorem decode_of_encode_yaml (hc : c.resolver = none) {d : Doc}
    (h : Decode.workflow (some c.extensions) d = .ok w)
    (hl : w.document.isLegibleDocument = true) (ht : encode .yaml w = .ok t) :
    c.decode t = .ok (.ok w.back) := by
  have hback := ofDocument_toDoc hc h
  have hplain := plain_document h
  obtain ⟨es, hdocument, -⟩ := document_eq_map w
  obtain ⟨s, hs, rfl⟩ := write_yaml_eq_ok ht
  rw [hdocument] at hs hl hback hplain
  cases es with
  | nil =>
    -- The empty mapping is a JSON text too.
    obtain rfl : "\x7b\x7d\n" = s := Except.ok.inj hs
    exact decode_eq_ok.2 (.inl (attempt_eq_ok.2 ⟨_, rfl, hback⟩))
  | cons e es =>
    refine decode_eq_ok.2 (.inr ⟨attempt_json_of_encode_yaml hdocument ht,
      attempt_eq_ok.2 ⟨_, ?_, hback⟩⟩)
    rw [document, Yaml.read_write (List.cons_ne_nil _ _) hplain hl hs]

/-- **The YAML round trip.** A workflow that is read can be written if none of its integers is too
long.  Its text is read as the same workflow, if no key of its mappings holds a half of a pair and
its texts are legible. -/
theorem decode_encode_yaml (hc : c.resolver = none) (h : c.decode s = .ok (.ok w))
    (hw : ∀ n ∈ w.integers, Number.exceedsDigitLimit n = false)
    (hkeys : ∀ m ∈ w.textMaps, ∀ k ∈ m.keys, k.holdsHalf = false)
    (hl : w.document.isLegibleDocument = true) :
    ∃ t, encode .yaml w = .ok t ∧ c.decode t = .ok (.ok w) := by
  obtain ⟨d, hd⟩ := exists_document_of_decode h
  have hlong : w.document.holdsLongInt = false := by
    rw [w.holdsLongInt_document, List.any_eq_false.2 (by simpa using hw)]
  have hwrite : Yaml.write w.document = .ok _ := if_neg (by simp [hlong])
  have ht : encode .yaml w = .ok _ := congrArg (Text.ofString <$> ·) hwrite
  refine ⟨_, ht, ?_⟩
  rw [decode_of_encode_yaml hc hd hl ht, Workflow.back_eq_self.2 hkeys]

/-- A workflow of legible texts, with a branch inside a parallel state and a mapping, is read from
its YAML text as it is. -/
theorem decode_encode_yaml_nested :
    (⟨.empty, none⟩ : Codec).decode nestedText = .ok (.ok nestedWorkflow) ∧
      nestedWorkflow.document.isLegibleDocument = true ∧
      ∃ t, encode .yaml nestedWorkflow = .ok t ∧
        (⟨.empty, none⟩ : Codec).decode t = .ok (.ok nestedWorkflow) := by
  have hl : nestedWorkflow.document.isLegibleDocument = true := by decide +kernel
  exact ⟨decode_nestedText, hl, decode_encode_yaml rfl decode_nestedText
    (by simp [integers_nestedWorkflow]) (by decide) hl⟩

/-- A text with a line end that single quotes do not keep. -/
def nextLineText : Text := ↑"\x7b\"metadata\":\x7b\"k\":\"x\\u0085y\"\x7d\x7d"

/-- The workflow of `nextLineText`. -/
def nextLineWorkflow : Workflow where
  id := none
  name := none
  version := none
  startsAt := none
  triggers := []
  states := []
  metadata := .ofEntries [(↑"k", ↑"x\x85y")]
  extensions := []

theorem decode_nextLineText :
    (⟨.empty, none⟩ : Codec).decode nextLineText = .ok (.ok nextLineWorkflow) := by
  cbv

theorem encode_nextLineWorkflow :
    encode .yaml nextLineWorkflow = .ok ↑"metadata:\n  k: \x27x\x85    y\x27\n" := by
  cbv

/-- The line end is read as a blank. -/
theorem metadata_nextLineWorkflow :
    ((⟨.empty, none⟩ : Codec).decode ↑"metadata:\n  k: \x27x\x85    y\x27\n").toOption.bind
      (fun r => r.toOption.map fun w => w.metadata.entries) = some [(↑"k", ↑"x y")] := by
  decide +kernel

/-- Not every workflow that is read is read again from its YAML text, even if no key holds a half of
a pair: a text with U+0085 is written between single quotes, where it is read as a line end. -/
theorem not_forall_decode_encode_yaml :
    ¬ ∀ (c : Codec) (s : Text) (w : Workflow), c.resolver = none → c.decode s = .ok (.ok w) →
      (∀ n ∈ w.integers, Number.exceedsDigitLimit n = false) →
        (∀ m ∈ w.textMaps, ∀ k ∈ m.keys, k.holdsHalf = false) →
          ∃ t, encode .yaml w = .ok t ∧ c.decode t = .ok (.ok w) := by
  intro h
  obtain ⟨t, ht, hw⟩ := h ⟨.empty, none⟩ nextLineText nextLineWorkflow rfl decode_nextLineText
    (by decide) (by decide)
  obtain rfl := Except.ok.inj (encode_nextLineWorkflow.symm.trans ht)
  have hread := metadata_nextLineWorkflow
  rw [hw] at hread
  exact absurd hread (by decide)

end Markup
end WorkflowKit
