/-
# Parts that are written and read again

The scalars and the parts without states are faithful: what is written for them renders what was
given, and is read as the same again, up to the keys of the parameters of functions, which come
back as strings.
-/

import WorkflowKit.Proofs.Decode.Field

namespace WorkflowKit

/-! ### What comes back -/

/-- A function as it comes back. -/
def Function.back (f : Function) : Function :=
  { f with parameters := Decode.stringKeys f.parameters }

/-- An action as it comes back. -/
def Action.back (a : Action) : Action := { a with function := a.function.map Function.back }

/-- An event as it comes back. -/
def Event.back (e : Event) : Event := { e with actions := e.actions.map Action.back }

namespace Decode

open Member (docEntries Holds valueOf?)
open FieldSpec (plain flag words kind)

variable {r : ExtensionRegistry} {α : Type}

/-! ### Scalars -/

/-- A plain text is read from a string or from bytes alone, under any number of marks. -/
theorem plainText_eq_ok {d : Doc} {t : Text} (h : plainText d = .ok t) :
    ∃ s, d.unmarked = .scalar s ∧ plainText? s = some t := by
  rw [plainText] at h
  split at h
  · next hd => exact ⟨_, hd, congrArg some (Except.ok.inj h)⟩
  · next hd =>
    refine ⟨_, hd, ?_⟩
    split at h
    · next hs => rw [plainText?, hs, Option.map_some, Except.ok.inj h]
    · exact absurd h Checked.fail_ne_ok
  · exact absurd h Checked.fail_ne_ok

/-- The text of a scalar that needs no conversion is its text with conversion too. -/
theorem scalarText?_of_plainText? {s : Scalar} {t : Text} (h : plainText? s = some t) :
    scalarText? s = some t := by
  cases s <;> simp_all [plainText?, scalarText?]

/-- An integer that can be written is written in decimal digits. -/
theorem writeInt_eq_ok {n : Int} {cs : List Char} (h : Number.writeInt n = .ok cs) :
    Number.intText n = cs := by
  rw [Number.writeInt] at h
  split at h
  · exact absurd h (by simp)
  · exact Except.ok.inj h

/-- A text is read from a scalar, under any number of marks, and is that scalar's text. -/
theorem text_eq_ok {d : Doc} {t : Text} (h : text d = .ok t) :
    ∃ s, d.unmarked = .scalar s ∧ scalarText? s = some t := by
  rw [text] at h
  split at h
  · next hd => exact ⟨_, hd, congrArg some (Except.ok.inj h)⟩
  · next hd =>
    refine ⟨_, hd, ?_⟩
    split at h
    · next hn => rw [scalarText?, writeInt_eq_ok hn, Except.ok.inj h]
    · exact absurd h Checked.fail_ne_ok
  · next hd => exact ⟨_, hd, congrArg some (Except.ok.inj h)⟩
  · next hd => exact ⟨_, hd, congrArg some (Except.ok.inj h)⟩
  · next hd => exact ⟨_, hd, congrArg some (Except.ok.inj h)⟩
  · obtain ⟨s, hs, ht⟩ := plainText_eq_ok h
    exact ⟨s, (unmarked_unmarked d).symm.trans hs, scalarText?_of_plainText? ht⟩

/-- A plain text is written as the string that it was read as. -/
theorem plainText_faithful : Faithful r .plainText plainText plainText .text id where
  renders h := by
    obtain ⟨s, hs, ht⟩ := plainText_eq_ok h
    exact .plainText hs ht
  rereads _ := rfl

/-- A text is written as a string, whatever scalar it was read from, and a string is read as it is.
-/
theorem text_faithful : Faithful r .text text text .text id where
  renders h := by
    obtain ⟨s, hs, ht⟩ := text_eq_ok h
    exact .text hs ht
  rereads _ := rfl

/-- A count is an integer that is not negative. -/
theorem natural_eq_ok {d : Doc} {n : Int} : natural d = .ok n ↔ integer d = .ok n ∧ 0 ≤ n := by
  rw [natural, Checked.bind_eq_ok]
  constructor
  · rintro ⟨m, hm, h⟩
    split at h
    · exact absurd h Checked.fail_ne_ok
    · next hneg => exact Except.ok.inj h ▸ ⟨hm, Int.not_lt.1 hneg⟩
  · rintro ⟨hn, hpos⟩
    exact ⟨n, hn, by rw [if_neg (Int.not_lt.2 hpos)]; rfl⟩

/-- A count is written as an integer, whether it was given as one, as a number with a fraction of
zero or as a string. -/
theorem natural_faithful : Faithful r .count natural natural .int id where
  renders h := .count (natural_eq_ok.1 h).1 (natural_eq_ok.1 h).2
  rereads h := natural_eq_ok.2 ⟨rfl, (natural_eq_ok.1 h).2⟩

/-- An integer is written as an integer, whatever it was read from. -/
theorem integer_faithful : Faithful r .integer integer integer .int id where
  renders h := .integer h
  rereads _ := rfl

/-- A truth value is written as one, also where it was given as a word or a number. -/
theorem truth_faithful : Faithful r .truth truth truth .bool id where
  renders h := .truth h
  rereads _ := rfl

/-- A text that can be stored consists of characters. -/
theorem storable_eq_ok {t : Text} {cs : List Char} (h : storable t = .ok cs) : t = .ofChars cs := by
  rw [storable] at h
  split at h
  · next hcs => exact Except.ok.inj h ▸ Text.chars?_eq_some hcs
  · exact absurd h Checked.fail_ne_ok

/-- A choice between words is read from the plain text of one of them. -/
theorem oneOf_eq_ok {text : α → String} {all : List α} {d : Doc} {a : α}
    (h : oneOf text all d = .ok a) :
    a ∈ all ∧ ∃ s, d.unmarked = .scalar s ∧ plainText? s = some (.ofString (text a)) := by
  rw [oneOf] at h
  obtain ⟨word, hword, h⟩ := Checked.bind_eq_ok.1 h
  split at h
  · next b hb =>
    cases h
    obtain ⟨cs, rfl, hfind⟩ := Option.bind_eq_some_iff.1 hb
    have hfound := List.find?_some hfind
    have ha : (text a).toList = cs := eq_of_beq hfound
    refine ⟨List.mem_of_find?_eq_some hfind, ?_⟩
    rw [wordChars] at hword
    split at hword
    · next t ht =>
      obtain ⟨cs', hcs', heq⟩ := Checked.map_eq_ok.1 hword
      cases heq
      refine ⟨_, ht, ?_⟩
      rw [plainText?, storable_eq_ok hcs', Text.ofString, ha]
    · next bs hbs =>
      refine ⟨_, hbs, ?_⟩
      obtain ⟨s, hs, heq⟩ := Option.map_eq_some_iff.1 (Except.ok.inj hword)
      rw [plainText?, hs, Option.map_some, Text.ofString, Text.ofString, ha, heq]
    · cases hword
  · exact absurd h Checked.fail_ne_ok

/-- Words are faithful if no two values have the same word. -/
theorem oneOf_faithful {text : α → String} {all : List α}
    (hinj : ∀ a ∈ all, all.find? (fun b => (text b).toList == (text a).toList) = some a) :
    Faithful r (.word (all.map text)) (oneOf text all) (oneOf text all)
      (fun a => .text (.ofString (text a))) id where
  renders h := by
    obtain ⟨ha, s, hs, ht⟩ := oneOf_eq_ok h
    exact .word hs ht (List.mem_map_of_mem ha)
  rereads {d a} h := by
    have ha := (oneOf_eq_ok h).1
    refine Checked.bind_eq_ok.2 ⟨some (text a).toList, ?_, ?_⟩
    · refine Checked.map_eq_ok.2 ⟨(text a).toList, ?_, rfl⟩
      rw [storable, Text.chars?_ofString]
    · simp only [Option.bind_some, hinj a ha]
      rfl

/-- A fixed word is read from that string and from nothing else, bytes not excepted. -/
theorem word_eq_ok {w : String} {d : Doc} :
    Decode.word w d = .ok () ↔ d.unmarked = .scalar (.text (.ofString w)) := by
  rw [Decode.word]
  split
  · next t ht =>
    rw [ht, Doc.scalar.injEq, Scalar.text.injEq, Checked.bind_eq_ok]
    constructor
    · rintro ⟨cs, hcs, h⟩
      split at h
      · next hw => rw [storable_eq_ok hcs, hw, Text.ofString]
      · exact absurd h Checked.fail_ne_ok
    · rintro rfl
      exact ⟨w.toList, by rw [storable, Text.chars?_ofString], by rw [if_pos rfl]⟩
  · next h =>
    simp only [Checked.fail_ne_ok, false_iff]
    exact h _

/-- A fixed word is written as itself. -/
theorem word_faithful (w : String) :
    Faithful r (.word [w]) (Decode.word w) (Decode.word w) (fun _ => .text (.ofString w)) id where
  renders h := .word (word_eq_ok.1 h) rfl (List.mem_singleton_self w)
  rereads _ := word_eq_ok.2 rfl

/-! ### Fields -/

/-- An optional field whose content comes back as it was is faithful. -/
theorem Faithful.maybe_id {c : Content} {dec again : Decoder α} {write : α → Value}
    (h : Faithful r c dec again write id) (hc : c.IsSingle) (name : FieldName) :
    FaithfulField r (plain name c) (Decode.maybe name dec) (Decode.maybe name again)
      (Option.map write) id := by
  rw [← Option.map_id_fun]
  exact h.maybe hc name

/-- A field with a list whose members come back as they were is faithful; the empty list is not
written. -/
theorem Faithful.list_id {c : Content} {dec again : Decoder α} {write : α → Value}
    (h : Faithful r c dec again write id) (name : FieldName) :
    FaithfulField r (plain name (.list c)) (Decode.withDefault name [] (Decode.list dec))
      (Decode.withDefault name [] (Decode.list again))
      (fun as => (Member.list name.key (as.map write)).2) id := by
  rw [← List.map_id_fun]
  exact h.list name

/-- Optional texts are faithful, under every name. -/
theorem faithful_text (name : FieldName) :
    FaithfulField r (plain name .text) (maybe name text) (maybe name text) (Option.map .text) id :=
  text_faithful.maybe_id (fun _ h => h) name

/-- Optional counts are faithful, under every name. -/
theorem faithful_count (name : FieldName) :
    FaithfulField r (plain name .count) (maybe name natural) (maybe name natural)
      (Option.map .int) id :=
  natural_faithful.maybe_id (fun _ h => h) name

/-- Flags are faithful: they are always written, also where they have their default. -/
theorem faithful_flag (name : FieldName) :
    FaithfulField r (flag name) (withDefault name false truth) (withDefault name false truth)
      (fun b => some (.bool b)) id :=
  truth_faithful.withDefault name ⟨.scalar (.bool false), rfl⟩

/-- The field that tells the kind of a record is faithful: it is always written, as the one word
that it can hold. -/
theorem faithful_kind (w : String) :
    FaithfulField r (kind w) (knownKind w) (knownKind w) (fun _ => some (.text (.ofString w))) id :=
  (word_faithful w).withDefault (same "type") ⟨.scalar (.text (.ofString w)), word_eq_ok.2 rfl⟩

/-- The mode of the actions of an event is always written, so its default comes back as a given
value. -/
theorem faithful_mode :
    FaithfulField r .mode (withDefault actionMode .sequential mode)
      (withDefault actionMode .sequential mode)
      (fun m => some (.text (.ofString m.text))) id :=
  (oneOf_faithful (by decide)).withDefault actionMode
    ⟨.scalar (.text ActionMode.sequential.text), by decide +kernel⟩

/-- The status of an end state is always written, so its default comes back as a given value. -/
theorem faithful_status :
    FaithfulField r (words (same "status") (EndStatus.all.map EndStatus.text))
      (withDefault (same "status") .success (oneOf EndStatus.text EndStatus.all))
      (withDefault (same "status") .success (oneOf EndStatus.text EndStatus.all))
      (fun s => some (.text (.ofString s.text))) id :=
  (oneOf_faithful (by decide)).withDefault (same "status")
    ⟨.scalar (.text EndStatus.success.text), by decide +kernel⟩

/-- The operator of a test is written only where it was given. -/
theorem faithful_operator :
    FaithfulField r (plain (same "operator") (.word (Operator.all.map Operator.text)))
      (maybe (same "operator") (oneOf Operator.text Operator.all))
      (maybe (same "operator") (oneOf Operator.text Operator.all))
      (fun o => (o.map fun o => (o.text : Text)).map .text) id := by
  have h : Faithful r _ (oneOf Operator.text Operator.all) _ _ _ := oneOf_faithful (by decide)
  simp only [Option.map_map]
  exact h.maybe_id (fun _ h => h) (same "operator")

/-! ### Parts -/

/-- Triggers come back as they were. -/
theorem trigger_faithful : Faithful r (.part .trigger) trigger trigger Trigger.document id := by
  refine record_faithful rfl rfl (by decide) fun es a h => ?_
  simp only [Fields.map_read_eq_ok, Fields.seq_read_eq_ok] at h
  obtain ⟨_, ⟨_, ⟨_, ⟨name, h₁, rfl⟩, source, h₂, rfl⟩, type, h₃, rfl⟩, token, h₄, rfl⟩ := h
  refine ⟨_, rfl, .cons ⟨rfl, (faithful_text _).writes h₁⟩ (.cons ⟨rfl, (faithful_text _).writes h₂⟩
    (.cons ⟨rfl, (faithful_text _).writes h₃⟩ (.cons ⟨rfl, (faithful_text _).writes h₄⟩ .nil))), ?_⟩
  rw [Fields.seq_read, Fields.seq_read, Fields.seq_read, Fields.map_read,
    (faithful_text (r := r) _).rereads h₁ (by simp [Holds]),
    (faithful_text (r := r) _).rereads h₂ (by simp [Holds]),
    (faithful_text (r := r) _).rereads h₃ (by simp [Holds]),
    (faithful_text (r := r) _).rereads h₄ (by simp [Holds])]
  rfl

/-- Functions come back with strings for the keys of their parameters. -/
theorem function_faithful :
    Faithful r (.part .function) function function Function.document Function.back := by
  refine record_faithful rfl rfl (by decide) fun es a h => ?_
  simp only [Fields.map_read_eq_ok, Fields.seq_read_eq_ok] at h
  obtain ⟨_, ⟨_, ⟨name, h₁, rfl⟩, type, h₂, rfl⟩, parameters, h₃, rfl⟩ := h
  refine ⟨_, rfl, .cons ⟨rfl, (faithful_text _).writes h₁⟩ (.cons ⟨rfl, (faithful_text _).writes h₂⟩
    (.cons ⟨rfl, (faithful_texts _).writes h₃⟩ .nil)), ?_⟩
  rw [Fields.seq_read, Fields.seq_read, Fields.map_read,
    (faithful_text (r := r) _).rereads h₁ (by simp [Holds]),
    (faithful_text (r := r) _).rereads h₂ (by simp [Holds]),
    (faithful_texts (r := r) _).rereads h₃ (by simp [Holds])]
  rfl

/-- Retry declarations come back as they were. -/
theorem retry_faithful : Faithful r (.part .retry) retry retry Retry.document id := by
  refine record_faithful rfl rfl (by decide) fun es a h => ?_
  simp only [Fields.map_read_eq_ok, Fields.seq_read_eq_ok] at h
  obtain ⟨_, ⟨_, ⟨_, ⟨condition, h₁, rfl⟩, most, h₂, rfl⟩, interval, h₃, rfl⟩, next, h₄, rfl⟩ := h
  refine ⟨_, rfl, .cons ⟨rfl, (faithful_text _).writes h₁⟩
    (.cons ⟨rfl, (faithful_count _).writes h₂⟩ (.cons ⟨rfl, (faithful_count _).writes h₃⟩
      (.cons ⟨rfl, (faithful_text _).writes h₄⟩ .nil))), ?_⟩
  rw [Fields.seq_read, Fields.seq_read, Fields.seq_read, Fields.map_read,
    (faithful_text (r := r) _).rereads h₁ (by simp [Holds]),
    (faithful_count (r := r) _).rereads h₂ (by simp [Holds]),
    (faithful_count (r := r) _).rereads h₃ (by simp [Holds]),
    (faithful_text (r := r) _).rereads h₄ (by simp [Holds, nextState])]
  rfl

/-- Actions come back with the function that comes back. -/
theorem action_faithful :
    Faithful r (.part .action) action action Action.document Action.back := by
  refine record_faithful rfl rfl (by decide) fun es a h => ?_
  simp only [Fields.map_read_eq_ok, Fields.seq_read_eq_ok] at h
  obtain ⟨_, ⟨_, ⟨function, h₁, rfl⟩, timeout, h₂, rfl⟩, retry, h₃, rfl⟩ := h
  have hfunction := (function_faithful (r := r)).maybe (fun _ h => h) (same "function")
  have hretry := (retry_faithful (r := r)).maybe_id (fun _ h => h) (same "retry")
  refine ⟨_, rfl, .cons ⟨rfl, hfunction.writes h₁⟩ (.cons ⟨rfl, (faithful_count _).writes h₂⟩
    (.cons ⟨rfl, hretry.writes h₃⟩ .nil)), ?_⟩
  rw [Fields.seq_read, Fields.seq_read, Fields.map_read,
    hfunction.rereads h₁ (by simp [Holds]),
    (faithful_count (r := r) _).rereads h₂ (by simp [Holds]),
    hretry.rereads h₃ (by simp [Holds])]
  rfl

/-- Filters come back as they were. -/
theorem filter_faithful : Faithful r (.part .filter) filter filter Filter.document id := by
  refine record_faithful rfl rfl (by decide) fun es a h => ?_
  simp only [Fields.map_read_eq_ok, Fields.seq_read_eq_ok] at h
  obtain ⟨_, ⟨_, ⟨input, h₁, rfl⟩, result, h₂, rfl⟩, output, h₃, rfl⟩ := h
  refine ⟨_, rfl, .cons ⟨rfl, (faithful_text _).writes h₁⟩ (.cons ⟨rfl, (faithful_text _).writes h₂⟩
    (.cons ⟨rfl, (faithful_text _).writes h₃⟩ .nil)), ?_⟩
  rw [Fields.seq_read, Fields.seq_read, Fields.map_read,
    (faithful_text (r := r) _).rereads h₁ (by simp [Holds]),
    (faithful_text (r := r) _).rereads h₂ (by simp [Holds]),
    (faithful_text (r := r) _).rereads h₃ (by simp [Holds])]
  rfl

/-- Events come back with the actions that come back, in their order. -/
theorem event_faithful : Faithful r (.part .event) event event Event.document Event.back := by
  refine record_faithful rfl rfl (by decide) fun es a h => ?_
  simp only [Fields.map_read_eq_ok, Fields.seq_read_eq_ok] at h
  obtain ⟨_, ⟨_, ⟨_, ⟨_, ⟨expression, h₁, rfl⟩, next, h₂, rfl⟩, mode, h₃, rfl⟩, timeout, h₄, rfl⟩,
    actions, h₅, rfl⟩ := h
  have hactions := (action_faithful (r := r)).list (same "actions")
  refine ⟨_, rfl, .cons ⟨rfl, (faithful_text _).writes h₁⟩ (.cons ⟨rfl, (faithful_text _).writes h₂⟩
    (.cons ⟨rfl, faithful_mode.writes h₃⟩ (.cons ⟨rfl, (faithful_count _).writes h₄⟩
      (.cons ⟨rfl, hactions.writes h₅⟩ .nil)))), ?_⟩
  rw [Fields.seq_read, Fields.seq_read, Fields.seq_read, Fields.seq_read, Fields.map_read,
    (faithful_text (r := r) _).rereads h₁ (by simp [Holds]),
    (faithful_text (r := r) _).rereads h₂ (by simp [Holds, nextState]),
    (faithful_mode (r := r)).rereads h₃ (by simp [Holds, FieldSpec.mode, words, actionMode]),
    (faithful_count (r := r) _).rereads h₄ (by simp [Holds]),
    hactions.rereads h₅ (by simp [Holds])]
  rfl

/-- Tests of a choice come back as they were. -/
theorem singleChoice_faithful :
    Faithful r (.part (.choice .single)) singleChoice singleChoice SingleChoice.document id := by
  refine record_faithful rfl rfl (by decide) fun es a h => ?_
  simp only [Fields.map_read_eq_ok, Fields.seq_read_eq_ok] at h
  obtain ⟨_, ⟨_, ⟨_, ⟨_, ⟨_, h₁, rfl⟩, path, h₂, rfl⟩, value, h₃, rfl⟩, operator, h₄, rfl⟩,
    next, h₅, rfl⟩ := h
  refine ⟨_, rfl, .cons ⟨rfl, (faithful_kind _).writes h₁⟩ (.cons ⟨rfl, (faithful_text _).writes h₂⟩
    (.cons ⟨rfl, (faithful_text _).writes h₃⟩ (.cons ⟨rfl, faithful_operator.writes h₄⟩
      (.cons ⟨rfl, (faithful_text _).writes h₅⟩ .nil)))), ?_⟩
  rw [Fields.seq_read, Fields.seq_read, Fields.seq_read, Fields.seq_read, Fields.map_read,
    (faithful_kind (r := r) _).rereads h₁ (by simp [Holds, kind, words]),
    (faithful_text (r := r) _).rereads h₂ (by simp [Holds]),
    (faithful_text (r := r) _).rereads h₃ (by simp [Holds]),
    (faithful_operator (r := r)).rereads h₄ (by simp [Holds]),
    (faithful_text (r := r) _).rereads h₅ (by simp [Holds, nextState])]
  rfl

/-- Choices that ask for all of their tests come back as they were. -/
theorem allChoice_faithful :
    Faithful r (.part (.choice .all)) allChoice allChoice Choice.document id := by
  refine record_faithful rfl rfl (by decide) fun es a h => ?_
  simp only [Fields.map_read_eq_ok, Fields.seq_read_eq_ok] at h
  obtain ⟨_, ⟨_, ⟨_, h₁, rfl⟩, choices, h₂, rfl⟩, next, h₃, rfl⟩ := h
  have hchoices := (singleChoice_faithful (r := r)).list_id ⟨"and", "and_"⟩
  refine ⟨_, rfl, .cons ⟨rfl, (faithful_kind _).writes h₁⟩ (.cons ⟨rfl, hchoices.writes h₂⟩
    (.cons ⟨rfl, (faithful_text _).writes h₃⟩ .nil)), ?_⟩
  rw [Fields.seq_read, Fields.seq_read, Fields.map_read,
    (faithful_kind (r := r) _).rereads h₁ (by simp [Holds, kind, words]),
    hchoices.rereads h₂ (by simp [Holds]),
    (faithful_text (r := r) _).rereads h₃ (by simp [Holds, nextState])]
  rfl

/-- Choices that ask for one of their tests come back as they were. -/
theorem anyChoice_faithful :
    Faithful r (.part (.choice .any)) anyChoice anyChoice Choice.document id := by
  refine record_faithful rfl rfl (by decide) fun es a h => ?_
  simp only [Fields.map_read_eq_ok, Fields.seq_read_eq_ok] at h
  obtain ⟨_, ⟨_, ⟨_, h₁, rfl⟩, choices, h₂, rfl⟩, next, h₃, rfl⟩ := h
  have hchoices := (singleChoice_faithful (r := r)).list_id ⟨"or", "or_"⟩
  refine ⟨_, rfl, .cons ⟨rfl, (faithful_kind _).writes h₁⟩ (.cons ⟨rfl, hchoices.writes h₂⟩
    (.cons ⟨rfl, (faithful_text _).writes h₃⟩ .nil)), ?_⟩
  rw [Fields.seq_read, Fields.seq_read, Fields.map_read,
    (faithful_kind (r := r) _).rereads h₁ (by simp [Holds, kind, words]),
    hchoices.rereads h₂ (by simp [Holds]),
    (faithful_text (r := r) _).rereads h₃ (by simp [Holds, nextState])]
  rfl

/-- Choices that ask for none of their tests come back as they were. -/
theorem noneChoice_faithful :
    Faithful r (.part (.choice .none)) noneChoice noneChoice Choice.document id := by
  refine record_faithful rfl rfl (by decide) fun es a h => ?_
  simp only [Fields.map_read_eq_ok, Fields.seq_read_eq_ok] at h
  obtain ⟨_, ⟨_, ⟨_, h₁, rfl⟩, choice, h₂, rfl⟩, next, h₃, rfl⟩ := h
  have hchoice := (singleChoice_faithful (r := r)).maybe_id (fun _ h => h) ⟨"not", "not_"⟩
  refine ⟨_, rfl, .cons ⟨rfl, (faithful_kind _).writes h₁⟩ (.cons ⟨rfl, hchoice.writes h₂⟩
    (.cons ⟨rfl, (faithful_text _).writes h₃⟩ .nil)), ?_⟩
  rw [Fields.seq_read, Fields.seq_read, Fields.map_read,
    (faithful_kind (r := r) _).rereads h₁ (by simp [Holds, kind, words]),
    hchoice.rereads h₂ (by simp [Holds]),
    (faithful_text (r := r) _).rereads h₃ (by simp [Holds, nextState])]
  rfl

/-- **A choice of any kind is faithful.** -/
theorem choice_faithful : Faithful r .anyChoice choice choice Choice.document id := by
  refine tagged_faithful Part.choice (by decide) (fun _ _ h => h)
    (fun k => List.mem_cons_self ..) fun k => ?_
  cases k with
  | single => exact singleChoice_faithful.map (fun _ => rfl) fun _ => rfl
  | all => exact allChoice_faithful
  | any => exact anyChoice_faithful
  | none => exact noneChoice_faithful

end Decode
end WorkflowKit
