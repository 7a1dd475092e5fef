/-
# Fields that are written and read again

A decoder is faithful if what is written for what it reads renders what was given, and is read as
the same again (`Faithful`); `back` says what comes back.  A field is faithful if this holds of its
entry (`FaithfulField`), and a record is faithful if its fields are (`record_faithful`).  So
whether a part of a workflow is faithful is decided field by field.
-/

import Mathlib.Data.List.Nodup
import WorkflowKit.Proofs.Decode.Format
import WorkflowKit.Proofs.Decode.Inversion
import WorkflowKit.Proofs.Value.Entries
import WorkflowKit.Proofs.Value.Text

namespace WorkflowKit

namespace Value

/-- A document made from a value carries no marks. -/
theorem unmarked_toDoc (v : Value) : v.toDoc.unmarked = v.toDoc := by
  cases v <;> rfl

theorem itemsToDoc_eq_map (vs : List Value) : itemsToDoc vs = vs.map toDoc := by
  induction vs with
  | nil => rfl
  | cons v vs ih => rw [itemsToDoc, ih, List.map_cons]

theorem entriesToDoc_eq_map (es : List (Text × Value)) :
    entriesToDoc es = es.map fun e => (.text e.1, e.2.toDoc) := by
  induction es with
  | nil => rfl
  | cons e es ih => rw [entriesToDoc, ih, List.map_cons]

end Value

namespace Member

@[simp]
theorem text_eq (key : String) (s : Option Text) : text key s = (key, s.map .text) := rfl

@[simp]
theorem int_eq (key : String) (n : Option Int) : int key n = (key, n.map .int) := rfl

@[simp]
theorem bool_eq (key : String) (b : Bool) : bool key b = (key, some (.bool b)) := rfl

@[simp]
theorem word_eq (key : String) (s : Text) : word key s = (key, some (.text s)) := rfl

@[simp]
theorem record_eq {α : Type} (key : String) (document : α → Value) (a : Option α) :
    record key document a = (key, a.map document) := rfl

@[simp]
theorem list_eq (key : String) (vs : List Value) :
    list key vs = (key, if vs.isEmpty then none else some (.list vs)) := rfl

@[simp]
theorem texts_eq (key : String) (m : TextMap) :
    texts key m = (key, if m.entries.isEmpty then none else some (.map (writtenTexts m))) := rfl

/-- The value that some fields hold for a key. -/
def valueOf? (ms : List Member) (key : String) : Option Value :=
  ms.findSome? fun m => if m.1 = key then m.2 else none

@[simp]
theorem valueOf?_nil (key : String) : valueOf? [] key = none := rfl

/-- The first field of a key that is written counts; one that is left out is passed over. -/
@[simp]
theorem valueOf?_cons (k key : String) (v : Option Value) (ms : List Member) :
    valueOf? ((k, v) :: ms) key =
      if k = key then v.or (valueOf? ms key) else valueOf? ms key := by
  rw [valueOf?, List.findSome?_cons]
  by_cases h : k = key <;> cases v <;> simp [h, valueOf?]

/-- The entries of a document that some fields give. -/
def docEntries (ms : List Member) : List (Scalar × Doc) :=
  Value.entriesToDoc (ms.filterMap entry?)

/-- A document made from some fields holds under a key what they hold for it. -/
theorem field?_docEntries (ms : List Member) (key : String) :
    Doc.field? (.ofString key) (docEntries ms) = (valueOf? ms key).map Value.toDoc := by
  induction ms with
  | nil => rfl
  | cons m ms ih =>
    obtain ⟨k, _ | v⟩ := m
    · rw [valueOf?, List.findSome?_cons, ite_self]
      exact ih
    · have hcons : docEntries ((k, some v) :: ms) =
          (.text (.ofString k), v.toDoc) :: docEntries ms := rfl
      rw [hcons, valueOf?, List.findSome?_cons, Doc.field?, List.find?_cons]
      by_cases h : k = key
      · simp [h]
      · have hne : (Text.ofString k == Text.ofString key) = false := by
          simpa [Text.ofString_inj] using h
        simp only [hne, h, if_false]
        exact ih

/-- Some fields hold this for a field of a record, and nothing under its second name. -/
def Holds (ms : List Member) (name : Decode.FieldName) (m : Option Value) : Prop :=
  valueOf? ms name.key = m ∧ (valueOf? ms name.second = none ∨ name.second = name.key)

/-- A field is found under its own key, since nothing is written under its second name. -/
theorem Holds.given? {ms : List Member} {name : Decode.FieldName} {m : Option Value}
    (h : Holds ms name m) :
    name.given? (docEntries ms) = m.map fun v => (name.key, v.toDoc) := by
  obtain ⟨rfl, h⟩ := h
  rw [Decode.FieldName.given?, field?_docEntries, field?_docEntries]
  cases hv : valueOf? ms name.key with
  | some v => rfl
  | none => rcases h with h | h <;> simp [h, hv]

end Member

namespace Decode

open Member (docEntries Holds)

variable {r : ExtensionRegistry} {α β : Type}

/-- The mapping that is written for a mapping to texts. -/
def WrittenTexts (es : List (Scalar × Doc)) (cs : List (Text × Value)) : Prop :=
  ∃ m, texts (.map es) = .ok m ∧ m.entries ≠ [] ∧ cs = Member.writtenTexts m

/-- What is written for what `dec` reads renders what was given, and `again` reads what comes
back. -/
structure Faithful (r : ExtensionRegistry) (c : Content) (dec again : Decoder α)
    (write : α → Value) (back : α → α) : Prop where
  /-- Nothing is lost and nothing invented. -/
  renders : ∀ {d a}, dec d = .ok a → Renders r WrittenTexts c d (write a)
  /-- What is written is read again. -/
  rereads : ∀ {d a}, dec d = .ok a → again (write a).toDoc = .ok (back a)

/-- What is written of a field is what was given, or its default. -/
def Writes (r : ExtensionRegistry) (s : FieldSpec) (es : List (Scalar × Doc))
    (m : Option Value) : Prop :=
  (s.name.given? es = none ∧ m = s.fallback) ∨
    ∃ k d, s.name.given? es = some (k, d) ∧
      ((s.content.Drops d ∧ m = none) ∨ ∃ v, Renders r WrittenTexts s.content d v ∧ m = some v)

/-- What is written of a field that `x` reads renders what was given, and `again` reads what comes
back. -/
structure FaithfulField (r : ExtensionRegistry) (s : FieldSpec) (x again : Fields α)
    (write : α → Option Value) (back : α → α) : Prop where
  /-- Nothing is lost and nothing invented. -/
  writes : ∀ {es a}, x.read es = .ok a → Writes r s es (write a)
  /-- What is written is read again. -/
  rereads : ∀ {es a ms}, x.read es = .ok a → Holds ms s.name (write a) →
    again.read (docEntries ms) = .ok (back a)

/-- Marks do not hide the items of a list. -/
theorem items?_unmarked (d : Doc) : items? d.unmarked = items? d := by
  rw [items?, unmarked_unmarked, ← items?]

/-- The marks around a document do not count. -/
theorem Renders.of_unmarked {mapping : List (Scalar × Doc) → List (Text × Value) → Prop}
    {c : Content} {d : Doc} {v : Value} (h : Renders r mapping c d.unmarked v) :
    Renders r mapping c d v := by
  have hd := unmarked_unmarked d
  cases h with
  | text given same => exact .text (hd ▸ given) same
  | plainText given same => exact .plainText (hd ▸ given) same
  | count same nonneg =>
    exact .count (by rw [Decode.integer, ← hd]; exact same) nonneg
  | integer same => exact .integer (by rw [Decode.integer, ← hd]; exact same)
  | truth same => exact .truth (by rw [Decode.truth, ← hd]; exact same)
  | word given same mem => exact .word (hd ▸ given) same mem
  | texts given written => exact .texts (hd ▸ given) written
  | list given ne_nil length items => exact .list (items?_unmarked d ▸ given) ne_nil length items
  | record given admits known once nodup declared fields kept fallback =>
    exact .record (hd ▸ given) admits known once nodup declared fields kept fallback

/-- Nothing that was given is written as the absent value. -/
theorem Renders.ne_null {mapping : List (Scalar × Doc) → List (Text × Value) → Prop}
    {c : Content} {d : Doc} {v : Value} (h : Renders r mapping c d v) : v ≠ .null := by
  rintro rfl
  cases h

/-! ### Kinds of fields -/

@[simp]
theorem same_key (name : String) : (same name).key = name := rfl

@[simp]
theorem same_second (name : String) : (same name).second = name := rfl

@[simp]
theorem FieldSpec.plain_name (name : FieldName) (c : Content) : (plain name c).name = name := rfl

@[simp]
theorem FieldSpec.flag_name (name : FieldName) : (flag name).name = name := rfl

/-- Contents of which nothing but the absent value counts as nothing. -/
def Content.IsSingle (c : Content) : Prop := ∀ d, d.unmarked = .scalar .null → c.Drops d

/-- What was given for an optional content is read back as given, for it is not written as the
absent value. -/
theorem Faithful.optional {c : Content} {dec again : Decoder α} {write : α → Value} {back : α → α}
    (h : Faithful r c dec again write back) {d : Doc} {a : α} (ha : dec d = .ok a) :
    Decode.optional again (write a).toDoc = .ok (some (back a)) := by
  refine optional_eq_ok.2 (.inr ⟨?_, back a, ?_, rfl⟩)
  · have hne := (h.renders ha).ne_null
    rw [Value.unmarked_toDoc]
    cases hw : write a with
    | null => exact absurd hw hne
    | _ => simp [Value.toDoc]
  · rw [Value.unmarked_toDoc]
    exact h.rereads ha

/-- A field that may be missing or absent. -/
theorem Faithful.maybe {c : Content} {dec again : Decoder α} {write : α → Value} {back : α → α}
    (h : Faithful r c dec again write back) (hc : c.IsSingle) (name : FieldName) :
    FaithfulField r (.plain name c) (maybe name dec) (Decode.maybe name again)
      (Option.map write) (Option.map back) where
  writes ho := by
    rcases maybe_read_eq_ok.1 ho with ⟨hn, rfl⟩ | ⟨k, d, hd, ⟨hnull, rfl⟩ | ⟨-, a, ha, rfl⟩⟩
    · exact .inl ⟨hn, rfl⟩
    · exact .inr ⟨k, d, hd, .inl ⟨hc d hnull, rfl⟩⟩
    · exact .inr ⟨k, d, hd, .inr ⟨_, (h.renders ha).of_unmarked, rfl⟩⟩
  rereads {es o ms} ho hms := by
    have hgiven : name.given? (docEntries ms) = _ := hms.given?
    rw [Decode.maybe, withDefault_read_eq_ok, hgiven]
    rcases maybe_read_eq_ok.1 ho with ⟨-, rfl⟩ | ⟨_, _, -, ⟨-, rfl⟩ | ⟨-, a, ha, rfl⟩⟩
    · exact .inl ⟨rfl, rfl⟩
    · exact .inl ⟨rfl, rfl⟩
    · exact .inr ⟨_, _, rfl, h.optional ha⟩

/-- A field with a default that is written. -/
theorem Faithful.withDefault {c : Content} {dec again : Decoder α} {write : α → Value}
    {back : α → α} (h : Faithful r c dec again write back) (name : FieldName) {fallback : α}
    (hf : ∃ d, dec d = .ok fallback) :
    FaithfulField r ⟨name, c, some (write fallback)⟩ (withDefault name fallback dec)
      (Decode.withDefault name fallback again) (fun a => some (write a)) back where
  writes ha := by
    rcases withDefault_read_eq_ok.1 ha with ⟨hn, rfl⟩ | ⟨k, d, hd, ha⟩
    · exact .inl ⟨hn, rfl⟩
    · exact .inr ⟨k, d, hd, .inr ⟨_, h.renders ha, rfl⟩⟩
  rereads {es a ms} ha hms := by
    rw [withDefault_read_eq_ok, hms.given?]
    refine .inr ⟨_, _, rfl, ?_⟩
    rcases withDefault_read_eq_ok.1 ha with ⟨-, rfl⟩ | ⟨_, _, -, ha⟩
    · obtain ⟨d, hd⟩ := hf
      exact h.rereads hd
    · exact h.rereads ha

/-- A list of faithful contents is written as the list of what is written for its members. -/
theorem renders_list {c : Content} {dec again : Decoder α} {write : α → Value} {back : α → α}
    (h : Faithful r c dec again write back) {d : Doc} {ds : List Doc} {as : List α}
    (hds : items? d = some ds) (has : List.Forall₂ (fun d a => dec d = .ok a) ds as)
    (hne : as ≠ []) : Renders r WrittenTexts (.list c) d (.list (as.map write)) := by
  refine .list hds (by simpa using hne) (by simpa using has.length_eq) fun i hd hv => ?_
  rw [List.getElem_map]
  exact h.renders (has.get hd (by simpa using hv))

/-- A list of faithful contents is read back member by member. -/
theorem rereads_list {c : Content} {dec again : Decoder α} {write : α → Value} {back : α → α}
    (h : Faithful r c dec again write back) {ds : List Doc} {as : List α}
    (has : List.Forall₂ (fun d a => dec d = .ok a) ds as) :
    list again (Value.list (as.map write)).toDoc = .ok (as.map back) := by
  refine list_eq_ok.2 ⟨_, rfl, ?_⟩
  rw [Value.itemsToDoc_eq_map, List.map_map, List.forall₂_map_left_iff,
    List.forall₂_map_right_iff, List.forall₂_same]
  intro a ha
  obtain ⟨d, hd⟩ : ∃ d, dec d = .ok a := by
    obtain ⟨i, hi, rfl⟩ := List.getElem_of_mem ha
    exact ⟨_, has.get (has.length_eq ▸ hi) hi⟩
  exact h.rereads hd

/-- A list that is written unless it is empty. -/
theorem Faithful.list {c : Content} {dec again : Decoder α} {write : α → Value} {back : α → α}
    (h : Faithful r c dec again write back) (name : FieldName) :
    FaithfulField r (.plain name (.list c)) (Decode.withDefault name [] (Decode.list dec))
      (Decode.withDefault name [] (Decode.list again))
      (fun as => (Member.list name.key (as.map write)).2) (List.map back) where
  writes {es as} ha := by
    rcases withDefault_read_eq_ok.1 ha with ⟨hn, rfl⟩ | ⟨k, d, hd, ha⟩
    · exact .inl ⟨hn, rfl⟩
    · obtain ⟨ds, hds, has⟩ := list_eq_ok.1 ha
      refine .inr ⟨k, d, hd, ?_⟩
      cases as with
      | nil =>
        cases has
        exact .inl ⟨hds, rfl⟩
      | cons a as => exact .inr ⟨_, renders_list h hds has (List.cons_ne_nil _ _), rfl⟩
  rereads {es as ms} ha hms := by
    have hgiven : name.given? (docEntries ms) = _ := hms.given?
    rw [withDefault_read_eq_ok, hgiven]
    cases as with
    | nil => exact .inl ⟨rfl, rfl⟩
    | cons a as =>
      refine .inr ⟨_, _, rfl, ?_⟩
      rcases withDefault_read_eq_ok.1 ha with ⟨-, heq⟩ | ⟨_, _, -, ha⟩
      · cases heq
      · obtain ⟨ds, -, has⟩ := list_eq_ok.1 ha
        exact rereads_list h has

/-- A mapping to texts with the strings that its keys are written as. -/
def stringKeys (m : TextMap) : TextMap :=
  .ofEntries (m.entries.map fun e => (.ofString e.1.lossy, e.2))

/-- The mapping that is written holds the string of each key with its text. -/
theorem writtenTexts_eq_map (m : TextMap) :
    Member.writtenTexts m = (stringKeys m).entries.map fun e => (e.1, .text e.2) := by
  rw [stringKeys, TextMap.ofEntries, ← distinctEntries_map, List.map_map]
  rfl

/-- A mapping to texts is read again with strings for keys. -/
theorem texts_writtenTexts (m : TextMap) :
    texts (Value.map (Member.writtenTexts m)).toDoc = .ok (stringKeys m) := by
  refine texts_eq_ok.2 ⟨_, (stringKeys m).entries, rfl, ?_, ?_⟩
  · rw [Value.entriesToDoc_eq_map, writtenTexts_eq_map, List.map_map, List.forall₂_map_left_iff,
      List.forall₂_same]
    exact fun _ _ => ⟨rfl, rfl⟩
  · rw [TextMap.ofEntries, TextMap.mk.injEq, distinctEntries_of_nodup (stringKeys m).nodup]

/-- A mapping to texts that is written unless it is empty. -/
theorem faithful_texts (name : FieldName) :
    FaithfulField r (.plain name .texts) (withDefault name .empty texts)
      (withDefault name .empty texts) (fun m => (Member.texts name.key m).2) stringKeys where
  writes {es m} hm := by
    rcases withDefault_read_eq_ok.1 hm with ⟨hn, rfl⟩ | ⟨k, d, hd, hm⟩
    · exact .inl ⟨hn, rfl⟩
    · obtain ⟨fs, qs, hfs, hqs, rfl⟩ := texts_eq_ok.1 hm
      refine .inr ⟨k, d, hd, ?_⟩
      by_cases hnil : qs = []
      · subst hnil
        cases hqs
        exact .inl ⟨hfs, rfl⟩
      · have hne : (TextMap.ofEntries qs).entries ≠ [] := mt distinctEntries_eq_nil.1 hnil
        refine .inr ⟨_, .texts hfs ⟨_, texts_eq_ok.2 ⟨fs, qs, rfl, hqs, rfl⟩, hne, rfl⟩, ?_⟩
        rw [Member.texts_eq, if_neg (by simpa using hne)]
  rereads {es m ms} _ hms := by
    have hgiven : name.given? (docEntries ms) = _ := hms.given?
    rw [withDefault_read_eq_ok, hgiven, Member.texts_eq]
    by_cases hnil : m.entries = []
    · refine .inl ⟨by simp [hnil], ?_⟩
      rw [stringKeys, hnil]
      rfl
    · exact .inr ⟨_, _, by rw [if_neg (by simpa using hnil)]; rfl, texts_writtenTexts m⟩

/-! ### Records -/

/-- What is written of a field that is given. -/
theorem Writes.of_given {s : FieldSpec} {es : List (Scalar × Doc)} {m : Option Value}
    (h : Writes r s es m) {k : String} {d : Doc} (hg : s.name.given? es = some (k, d)) :
    s.content.Drops d ∧ m = none ∨ ∃ v, Renders r WrittenTexts s.content d v ∧ m = some v := by
  rcases h with ⟨hn, -⟩ | ⟨k', d', hg', h⟩
  · rw [hn] at hg
    cases hg
  · rw [hg', Option.some.injEq, Prod.mk.injEq] at hg
    obtain ⟨rfl, rfl⟩ := hg
    exact h

/-- What is written of a field that is not given. -/
theorem Writes.of_none {s : FieldSpec} {es : List (Scalar × Doc)} {m : Option Value}
    (h : Writes r s es m) (hn : s.name.given? es = none) : m = s.fallback := by
  rcases h with ⟨-, rfl⟩ | ⟨k, d, hg, -⟩
  · rfl
  · rw [hn] at hg
    cases hg

/-- What some fields read is written as `ms`, field by field. -/
def WritesAll (r : ExtensionRegistry) (specs : List FieldSpec) (es : List (Scalar × Doc))
    (ms : List Member) : Prop :=
  List.Forall₂ (fun s m => m.1 = s.name.key ∧ Writes r s es m.2) specs ms

/-- The fields of a record are written in the order in which they are declared. -/
theorem WritesAll.keys_eq {specs : List FieldSpec} {es : List (Scalar × Doc)} {ms : List Member}
    (h : WritesAll r specs es ms) : ms.map Prod.fst = specs.map fun s => s.name.key := by
  induction h with
  | nil => rfl
  | cons h _ ih => rw [List.map_cons, List.map_cons, h.1, ih]

/-- Every declared field is among those that are written, though it may be left out for being empty.
-/
theorem WritesAll.exists_mem {specs : List FieldSpec} {es : List (Scalar × Doc)}
    {ms : List Member} (h : WritesAll r specs es ms) {s : FieldSpec} (hs : s ∈ specs) :
    ∃ m, (s.name.key, m) ∈ ms ∧ Writes r s es m := by
  induction h with
  | nil => cases hs
  | @cons s' m specs ms h _ ih =>
    rcases List.mem_cons.1 hs with rfl | hs
    · exact ⟨m.2, by rw [← h.1]; exact List.mem_cons_self .., h.2⟩
    · obtain ⟨m, hm, hw⟩ := ih hs
      exact ⟨m, List.mem_cons_of_mem _ hm, hw⟩

/-- The entries of a document are the fields that are not left out. -/
theorem mem_entries_iff {ms : List Member} {t : Text} {v : Value} :
    (t, v) ∈ ms.filterMap Member.entry? ↔ ∃ key, t = .ofString key ∧ (key, some v) ∈ ms := by
  rw [List.mem_filterMap]
  constructor
  · rintro ⟨⟨key, _ | w⟩, hm, h⟩
    · cases h
    · obtain ⟨rfl, rfl⟩ := Prod.mk.inj (Option.some.inj h)
      exact ⟨key, rfl, hm⟩
  · rintro ⟨key, rfl, hm⟩
    exact ⟨_, hm, rfl⟩

/-- The entry of a field is what is written of it. -/
theorem WritesAll.mem_entries_iff {specs : List FieldSpec} {es : List (Scalar × Doc)}
    {ms : List Member} (h : WritesAll r specs es ms)
    (hnd : (specs.map fun s => s.name.key).Nodup) {s : FieldSpec} (hs : s ∈ specs) :
    ∃ m, Writes r s es m ∧
      ∀ v, (Text.ofString s.name.key, v) ∈ ms.filterMap Member.entry? ↔ m = some v := by
  obtain ⟨m, hm, hw⟩ := h.exists_mem hs
  refine ⟨m, hw, fun v => ?_⟩
  rw [Decode.mem_entries_iff]
  constructor
  · rintro ⟨key, hkey, hv⟩
    rw [Text.ofString_inj] at hkey
    subst hkey
    rw [← h.keys_eq] at hnd
    exact (Prod.mk.inj (List.inj_on_of_nodup_map hnd hm hv rfl)).2
  · rintro rfl
    exact ⟨_, rfl, hm⟩

/-- Fields with different keys give entries with different keys. -/
theorem nodup_entries {ms : List Member} (h : (ms.map Prod.fst).Nodup) :
    ((ms.filterMap Member.entry?).map Prod.fst).Nodup := by
  induction ms with
  | nil => exact .nil
  | cons m ms ih =>
    rw [List.map_cons, List.nodup_cons] at h
    obtain ⟨key, _ | v⟩ := m
    · exact ih h.2
    · refine List.nodup_cons.2 ⟨fun hmem => ?_, ih h.2⟩
      obtain ⟨⟨t, w⟩, hw, ht⟩ := List.mem_map.1 hmem
      obtain ⟨key', hkey, hm⟩ := Decode.mem_entries_iff.1 hw
      rw [show t = Text.ofString key from ht, Text.ofString_inj] at hkey
      exact h.1 (List.mem_map.2 ⟨_, hm, hkey.symm⟩)

/-- The key of a field is one of its names. -/
theorem FieldName.key_mem_all (f : FieldName) : f.key ∈ f.all := by
  rw [FieldName.all]
  split <;> exact List.mem_cons_self ..

/-- A field is given under one of its names. -/
theorem FieldName.mem_all_of_given? {f : FieldName} {es : List (Scalar × Doc)} {k : String}
    {d : Doc} (h : f.given? es = some (k, d)) : k ∈ f.all := by
  rw [FieldName.given?] at h
  split at h
  · cases h
    exact f.key_mem_all
  · obtain ⟨_, -, h⟩ := Option.map_eq_some_iff.1 h
    cases h
    rw [FieldName.all]
    split
    · next heq => exact List.mem_singleton.2 heq.symm
    · exact List.mem_cons_of_mem _ (List.mem_cons_self ..)

/-- A name is that of one field only. -/
theorem Part.eq_of_mem_all {p : Part} (hnd : p.names.Nodup) {s s' : FieldSpec} (hs : s ∈ p.specs)
    (hs' : s' ∈ p.specs) {k : String} (hk : k ∈ s.name.all) (hk' : k ∈ s'.name.all) : s = s' := by
  have hpair := (List.nodup_flatMap.1 hnd).2
  refine List.Pairwise.forall_of_forall_of_flip
    (R := fun s s' => k ∈ s.name.all → k ∈ s'.name.all → s = s') (fun _ _ _ _ => rfl)
    (hpair.imp fun hdisj h h' => absurd h' (hdisj h))
    (hpair.imp fun hdisj h h' => absurd h (hdisj h')) hs hs' hk hk'

/-- If no name of a part stands for two fields, their keys differ. -/
theorem Part.keys_nodup {p : Part} (hnd : p.names.Nodup) :
    (p.specs.map fun s => s.name.key).Nodup := by
  refine List.pairwise_map.2 ((List.nodup_flatMap.1 hnd).2.imp fun hdisj heq => ?_)
  exact hdisj (heq ▸ FieldName.key_mem_all _) (FieldName.key_mem_all _)

/-- A key that is used is that of a field that is given. -/
theorem Part.exists_given_of_usedNames {p : Part} {es : List (Scalar × Doc)} {t : Text}
    (ht : t ∈ usedNames (p.specs.map FieldSpec.name) es) :
    ∃ s ∈ p.specs, ∃ k d, s.name.given? es = some (k, d) ∧ t = .ofString k := by
  obtain ⟨_, hname, hk⟩ := List.mem_filterMap.1 ht
  obtain ⟨s, hs, rfl⟩ := List.mem_map.1 hname
  obtain ⟨⟨k, d⟩, hg, rfl⟩ := Option.map_eq_some_iff.1 hk
  exact ⟨s, hs, k, d, hg, rfl⟩

/-- If all keys are used, a field is given under whichever of its names is a key. -/
theorem Part.exists_given_of_mem {p : Part} (hnames : p.names.Nodup) {es : List (Scalar × Doc)}
    (hknown : ∀ e ∈ es, ∃ s ∈ p.specs, ∃ k d, s.name.given? es = some (k, d) ∧
      e.1 = .text (.ofString k)) {s : FieldSpec} (hs : s ∈ p.specs) {k : String}
    (hk : k ∈ s.name.all) (hmem : Scalar.text (.ofString k) ∈ es.map Prod.fst) :
    ∃ d, s.name.given? es = some (k, d) := by
  obtain ⟨e, he, hek⟩ := List.mem_map.1 hmem
  obtain ⟨s', hs', k', d, hg, hek'⟩ := hknown e he
  obtain rfl : k' = k := Text.ofString_inj.1 (Scalar.text.inj (hek'.symm.trans hek))
  obtain rfl := Part.eq_of_mem_all hnames hs hs' hk (FieldName.mem_all_of_given? hg)
  exact ⟨d, hg⟩

/-- **A record renders what was given if its fields do.** -/
theorem renders_record {p : Part} {c : Content} {d : Doc} {es : List (Scalar × Doc)}
    {ms : List Member} (hd : d.unmarked = .map es) (hp : c.Admits r es p)
    (hnames : p.names.Nodup)
    (hused : ∀ e ∈ es, ∃ t ∈ usedNames (p.specs.map FieldSpec.name) es, e.1 = .text t)
    (h : WritesAll r p.specs es ms) : Renders r WrittenTexts c d (.ofMembers ms) := by
  have hnd := Part.keys_nodup hnames
  have hknown : ∀ e ∈ es, ∃ s ∈ p.specs, ∃ k d, s.name.given? es = some (k, d) ∧
      e.1 = .text (.ofString k) := by
    intro e he
    obtain ⟨t, ht, hte⟩ := hused e he
    obtain ⟨s, hs, k, d, hg, rfl⟩ := Part.exists_given_of_usedNames ht
    exact ⟨s, hs, k, d, hg, hte⟩
  -- In turn: a field is given under one of its names only; what is written has a field of the
  -- record as its key; it renders the value; what does not count as nothing is written; and a field
  -- that is not given has its default.
  refine .record hd hp hknown ?_ (nodup_entries (h.keys_eq ▸ hnd)) ?_ ?_ ?_ ?_
  · intro s hs k hk k' hk' hmem hmem'
    obtain ⟨d, hd⟩ := Part.exists_given_of_mem hnames hknown hs hk hmem
    obtain ⟨d', hd'⟩ := Part.exists_given_of_mem hnames hknown hs hk' hmem'
    rw [hd] at hd'
    exact (Prod.mk.inj (Option.some.inj hd')).1
  · rintro ⟨t, v⟩ he
    obtain ⟨key, rfl, hm⟩ := Decode.mem_entries_iff.1 he
    have hkey : key ∈ ms.map Prod.fst := List.mem_map.2 ⟨_, hm, rfl⟩
    rw [h.keys_eq] at hkey
    obtain ⟨s, hs, rfl⟩ := List.mem_map.1 hkey
    exact ⟨s, hs, rfl⟩
  · intro s hs k d v hg hv
    obtain ⟨m, hw, hm⟩ := h.mem_entries_iff hnd hs
    obtain rfl := (hm v).1 hv
    obtain ⟨-, hnone⟩ | ⟨w, hw, heq⟩ := hw.of_given hg
    · cases hnone
    · exact Option.some.inj heq ▸ hw
  · intro s hs k d hg hdrop
    obtain ⟨m, hw, hm⟩ := h.mem_entries_iff hnd hs
    obtain ⟨hdrop', -⟩ | ⟨w, -, rfl⟩ := hw.of_given hg
    · exact absurd hdrop' hdrop
    · exact ⟨w, (hm w).2 rfl⟩
  · intro s hs hn v
    obtain ⟨m, hw, hm⟩ := h.mem_entries_iff hnd hs
    rw [hm, hw.of_none hn]

/-- A record is read again from what is written of its fields. -/
theorem ofEntries_docEntries {fields : Fields α} {ms : List Member} {a : α}
    (hkeys : ∀ m ∈ ms, m.1 ∈ fields.names.map FieldName.key)
    (hread : fields.read (docEntries ms) = .ok a) :
    ofEntries fields (docEntries ms) = .ok a := by
  have hentry : ∀ e ∈ docEntries ms, ∃ m ∈ ms, ∃ v, m.2 = some v ∧
      e = (.text (.ofString m.1), v.toDoc) := by
    intro e he
    rw [docEntries, Value.entriesToDoc_eq_map] at he
    obtain ⟨⟨t, v⟩, hv, rfl⟩ := List.mem_map.1 he
    obtain ⟨key, rfl, hm⟩ := Decode.mem_entries_iff.1 hv
    exact ⟨_, hm, v, rfl, rfl⟩
  refine ofEntries_eq_ok.2 ⟨fun e he => ?_, fun e he => ?_, hread⟩
  · obtain ⟨m, -, v, -, rfl⟩ := hentry e he
    exact Text.holdsHalf_ofString _
  · obtain ⟨m, hm, v, hv, rfl⟩ := hentry e he
    obtain ⟨f, hf, hkey⟩ := List.mem_map.1 (hkeys m hm)
    obtain ⟨w, hw⟩ : ∃ w, Member.valueOf? ms f.key = some w := by
      refine Option.isSome_iff_exists.1 (List.isSome_findSome? ▸ List.any_eq_true.2 ⟨m, hm, ?_⟩)
      rw [if_pos hkey.symm, hv]
      rfl
    refine ⟨.ofString f.key, List.mem_filterMap.2 ⟨f, hf, ?_⟩, by rw [hkey]⟩
    rw [FieldName.given?, Member.field?_docEntries, hw]
    rfl

/-- **A record is faithful if its fields are.** -/
theorem record_faithful {n n' : String} {fields again : Fields α} {p : Part}
    {write : α → Value} {back : α → α}
    (hnames : fields.names = p.specs.map FieldSpec.name)
    (hagain : again.names = p.specs.map FieldSpec.name)
    (hnd : p.names.Nodup)
    (h : ∀ es a, fields.read es = .ok a → ∃ ms, write a = .ofMembers ms ∧
      WritesAll r p.specs es ms ∧ again.read (docEntries ms) = .ok (back a)) :
    Faithful r (.part p) (record n fields) (record n' again) write back where
  renders ha := by
    obtain ⟨es, hes, ha⟩ := record_eq_ok.1 ha
    obtain ⟨-, hused, hread⟩ := ofEntries_eq_ok.1 ha
    obtain ⟨ms, hms, hwrites, -⟩ := h es _ hread
    rw [hms]
    exact renders_record hes rfl hnd (hnames ▸ hused) hwrites
  rereads ha := by
    obtain ⟨es, hes, ha⟩ := record_eq_ok.1 ha
    obtain ⟨-, -, hread⟩ := ofEntries_eq_ok.1 ha
    obtain ⟨ms, hms, hwrites, hagain'⟩ := h es _ hread
    rw [hms]
    refine record_eq_ok.2 ⟨_, rfl, ofEntries_docEntries (fun m hm => ?_) hagain'⟩
    rw [hagain, List.map_map]
    exact hwrites.keys_eq ▸ List.mem_map_of_mem (f := Prod.fst) hm

/-! ### Records of several kinds -/

/-- Among entries with different keys each is found by its key. -/
theorem field?_entriesToDoc {cs : List (Text × Value)} (hnd : (cs.map Prod.fst).Nodup) {t : Text}
    {v : Value} (h : (t, v) ∈ cs) : Doc.field? t (Value.entriesToDoc cs) = some v.toDoc := by
  induction cs with
  | nil => cases h
  | cons e cs ih =>
    rw [List.map_cons, List.nodup_cons] at hnd
    obtain ⟨k, w⟩ := e
    rw [Value.entriesToDoc, Doc.field?, List.find?_cons]
    rcases List.mem_cons.1 h with h | h
    · obtain ⟨rfl, rfl⟩ := Prod.mk.inj h
      simp
    · have hne : (k == t) = false := by
        rw [beq_eq_false_iff_ne]
        rintro rfl
        exact hnd.1 (List.mem_map.2 ⟨_, h, rfl⟩)
      simp only [hne]
      exact ih hnd.2 h

/-- A record that gives its kind is written with it. -/
theorem Renders.type_written {p : Part} {d : Doc} {es : List (Scalar × Doc)} {w : String}
    {v : Value} {mapping : List (Scalar × Doc) → List (Text × Value) → Prop}
    (h : Renders r mapping (.part p) d v) (hes : d.unmarked = .map es) (htype : HasType es w)
    (hkind : FieldSpec.kind w ∈ p.specs) :
    ∃ cs, v = .map cs ∧ HasType (Value.entriesToDoc cs) w := by
  obtain ⟨tag, htag, hw⟩ := htype
  cases h with
  | @record _ p' _ es' cs given admits _ _ nodup _ fields kept _ =>
    cases admits
    rw [hes, Doc.map.injEq] at given
    subst given
    have hgiven : (same "type").given? es = some ("type", tag) := by
      rw [FieldName.given?, show Doc.field? (same "type").key es = some tag from htag]
      rfl
    obtain ⟨v, hv⟩ := kept _ hkind "type" tag hgiven (by
      show tag.unmarked ≠ _
      rw [hw]
      simp)
    have hrender : Renders r mapping (.word [w]) tag v := fields _ hkind "type" tag v hgiven hv
    cases hrender with
    | word given same mem =>
      cases List.mem_singleton.1 mem
      exact ⟨cs, rfl, _, field?_entriesToDoc nodup hv, rfl⟩
    | record _ admits => exact admits.elim

/-- A part stands wherever a mapping like the one that was given is read as the part. -/
theorem Renders.of_part {p : Part} {c : Content} {d : Doc} {v : Value}
    {mapping : List (Scalar × Doc) → List (Text × Value) → Prop}
    (h : Renders r mapping (.part p) d v) (hc : ∀ es, d.unmarked = .map es → c.Admits r es p) :
    Renders r mapping c d v := by
  cases h with
  | record given admits known once nodup declared fields kept fallback =>
    cases admits
    exact .record given (hc _ given) known once nodup declared fields kept fallback

/-- **A record of several kinds is faithful if the records of each kind are.** -/
theorem tagged_faithful {κ : Type} {text : κ → String} {all : List κ} {c : Content}
    (part : κ → Part) {choose again : κ → Decoder α} {write : α → Value} {back : α → α}
    (hinj : ∀ k ∈ all, all.find? (fun b => Text.ofString (text b) == Text.ofString (text k)) =
      some k)
    (hadmits : ∀ es k, HasType es (text k) → c.Admits r es (part k))
    (hkind : ∀ k, FieldSpec.kind (text k) ∈ (part k).specs)
    (h : ∀ k, Faithful r (.part (part k)) (choose k) (again k) write back) :
    Faithful r c (tagged text all choose) (tagged text all again) write back where
  renders {d a} ha := by
    obtain ⟨es, tag, t, k, hes, htag, ht, hk, ha⟩ := tagged_eq_ok.1 ha
    have hkt : Text.ofString (text k) = t := by
      have := List.find?_some hk
      exact eq_of_beq this
    refine ((h k).renders ha).of_part fun es' hes' => hadmits es' k ?_
    rw [hes, Doc.map.injEq] at hes'
    exact hes' ▸ ⟨tag, htag, hkt ▸ ht⟩
  rereads {d a} ha := by
    obtain ⟨es, tag, t, k, hes, htag, ht, hk, ha⟩ := tagged_eq_ok.1 ha
    have hkt : Text.ofString (text k) = t := by
      have := List.find?_some hk
      exact eq_of_beq this
    obtain ⟨cs, hcs, tag', htag', ht'⟩ :=
      ((h k).renders ha).type_written hes ⟨tag, htag, hkt ▸ ht⟩ (hkind k)
    have hagain := (h k).rereads ha
    rw [hcs] at hagain ⊢
    exact tagged_eq_ok.2 ⟨_, tag', _, k, rfl, htag', ht',
      hinj k (List.mem_of_find?_eq_some hk), hagain⟩

/-- What is read of one kind may be wrapped. -/
theorem Faithful.map {c : Content} {dec again : Decoder α} {write : α → Value} {back : α → α}
    (h : Faithful r c dec again write back) {f : α → β} {write' : β → Value} {back' : β → β}
    (hwrite : ∀ a, write' (f a) = write a) (hback : ∀ a, f (back a) = back' (f a)) :
    Faithful r c (fun d => f <$> dec d) (fun d => f <$> again d) write' back' where
  renders hb := by
    obtain ⟨a, ha, rfl⟩ := Checked.map_eq_ok.1 hb
    exact hwrite a ▸ h.renders ha
  rereads hb := by
    obtain ⟨a, ha, rfl⟩ := Checked.map_eq_ok.1 hb
    rw [hwrite]
    exact Checked.map_eq_ok.2 ⟨_, h.rereads ha, hback a⟩

end Decode
end WorkflowKit
