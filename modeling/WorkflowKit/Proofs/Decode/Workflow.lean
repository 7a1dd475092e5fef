/-
# Workflows that are written and read again

Extension records are faithful because their shapes are well formed: the names of their fields are
distinct (`extensionOf_faithful`).  The shape is found again by the id that is written first.

So a workflow that is read is written as a document that renders what was given
(`renders_workflow`) and is read again as `Workflow.back` (`workflow_document`).
-/

import WorkflowKit.Proofs.Decode.State

namespace WorkflowKit

/-- A field of an extension record as it comes back. -/
def ExtensionValue.back : ExtensionValue → ExtensionValue
  | .texts m => .texts (Decode.stringKeys m)
  | v => v

/-- An extension record as it comes back. -/
def Extension.back (e : Extension) : Extension :=
  { e with fields := e.fields.map fun f => (f.1, f.2.back) }

/-- A workflow as it comes back: with strings for the keys of mappings. -/
def Workflow.back (w : Workflow) : Workflow :=
  { w with
    states := State.backAll w.states
    metadata := Decode.stringKeys w.metadata
    extensions := w.extensions.map Extension.back }

namespace Decode

open Member (docEntries Holds valueOf?)
open FieldSpec (plain flag words kind)

variable {r : ExtensionRegistry} {α β : Type}

/-! ### Fields of extension records -/

/-- A change of the result commutes with the place that faults are given. -/
theorem Checked.under_map (step : Step) (f : α → β) (x : Checked α) :
    Checked.under step (f <$> x) = f <$> Checked.under step x := by
  cases x <;> rfl

/-- A field may be read first and changed then, if its default is changed too. -/
theorem withDefault_map (name : FieldName) (f : α → β) (fallback : α) (dec : Decoder α) :
    (withDefault name (f fallback) fun d => f <$> dec d) =
      f <$> withDefault name fallback dec := by
  have hread : (withDefault name (f fallback) fun d => f <$> dec d).read =
      (f <$> withDefault name fallback dec).read := by
    funext es
    rw [Fields.map_read]
    simp only [withDefault]
    split
    · rw [Checked.under_map]
    · rfl
  exact congrArg (Fields.mk [name]) hread

/-- What a field reads may be wrapped. -/
theorem FaithfulField.map {s : FieldSpec} {x again : Fields α} {write : α → Option Value}
    {back : α → α} (h : FaithfulField r s x again write back) {f : α → β}
    {write' : β → Option Value} {back' : β → β} (hwrite : ∀ a, write' (f a) = write a)
    (hback : ∀ a, f (back a) = back' (f a)) :
    FaithfulField r s (f <$> x) (f <$> again) write' back' where
  writes hb := by
    obtain ⟨a, ha, rfl⟩ := Fields.map_read_eq_ok.1 hb
    exact hwrite a ▸ h.writes ha
  rereads hb hms := by
    obtain ⟨a, ha, rfl⟩ := Fields.map_read_eq_ok.1 hb
    rw [hwrite] at hms
    exact Fields.map_read_eq_ok.2 ⟨_, h.rereads ha hms, hback a⟩

/-- A field of an extension record is faithful, whichever of the types of the data model it has. -/
theorem extensionField_faithful (name : String) (f : ExtensionField) :
    FaithfulField r (extensionSpec name f) (extensionField name f) (extensionField name f)
      (fun v => (v.member name).2) ExtensionValue.back := by
  cases f with
  | text fallback =>
    rw [extensionField, withDefault_map]
    exact (plainText_faithful.withDefault (same name) ⟨.scalar (.text fallback), rfl⟩).map
      (fun _ => rfl) fun _ => rfl
  | int fallback =>
    rw [extensionField, withDefault_map]
    exact (integer_faithful.withDefault (same name) ⟨.scalar (.int fallback), rfl⟩).map
      (fun _ => rfl) fun _ => rfl
  | optionalText => exact (faithful_text (same name)).map (fun _ => rfl) fun _ => rfl
  | texts =>
    rw [extensionField, withDefault_map]
    exact (faithful_texts (same name)).map (fun _ => rfl) fun _ => rfl
  | items =>
    rw [extensionField, withDefault_map]
    exact (plainText_faithful.list_id (same name)).map (fun _ => rfl) fun _ => rfl
  | filter =>
    exact (filter_faithful.maybe_id (fun _ h => h) (same name)).map (fun _ => rfl) fun _ => rfl

/-- A field of an extension record has one name. -/
theorem extensionField_names (name : String) (f : ExtensionField) :
    (extensionField name f).names = [same name] := by
  cases f <;> rfl

/-- The schema knows it by the same name. -/
theorem extensionSpec_name (name : String) (f : ExtensionField) :
    (extensionSpec name f).name = same name := by
  cases f <;> rfl

/-- So the fields of an extension record have the names of its shape. -/
theorem extensionFields_names (fs : List (String × ExtensionField)) :
    (extensionFields fs).names = fs.map fun f => same f.1 := by
  induction fs with
  | nil => rfl
  | cons f fs ih =>
    rw [extensionFields, Fields.seq_names, Fields.map_names, extensionField_names, ih,
      List.map_cons, List.singleton_append]

/-- A field of an extension record is written under its name. -/
theorem member_fst (name : String) (v : ExtensionValue) : (v.member name).1 = name := by
  cases v <;> rfl

/-- The fields of an extension record are written field by field, by induction on the shape. -/
theorem extensionFields_writes {fs : List (String × ExtensionField)} {es : List (Scalar × Doc)}
    {vs : List (String × ExtensionValue)} (h : (extensionFields fs).read es = .ok vs) :
    WritesAll r (fs.map fun f => extensionSpec f.1 f.2) es (vs.map fun v => v.2.member v.1) := by
  induction fs generalizing vs with
  | nil => cases h; exact .nil
  | cons f fs ih =>
    simp only [extensionFields, Fields.map_read_eq_ok, Fields.seq_read_eq_ok] at h
    obtain ⟨_, ⟨v, hv, rfl⟩, vs, hvs, rfl⟩ := h
    refine .cons ⟨?_, (extensionField_faithful f.1 f.2).writes hv⟩ (ih hvs)
    rw [member_fst, extensionSpec_name]
    rfl

/-- They are read back from any fields that hold, under their names, what is written for them. -/
theorem extensionFields_rereads {fs : List (String × ExtensionField)} {es : List (Scalar × Doc)}
    {vs : List (String × ExtensionValue)} (h : (extensionFields fs).read es = .ok vs)
    {ms : List Member} (hms : ∀ v ∈ vs, Holds ms (same v.1) (v.2.member v.1).2) :
    (extensionFields fs).read (docEntries ms) = .ok (vs.map fun v => (v.1, v.2.back)) := by
  induction fs generalizing vs with
  | nil => cases h; rfl
  | cons f fs ih =>
    simp only [extensionFields, Fields.map_read_eq_ok, Fields.seq_read_eq_ok] at h ⊢
    obtain ⟨_, ⟨v, hv, rfl⟩, vs, hvs, rfl⟩ := h
    refine ⟨_, ⟨v.back, (extensionField_faithful (r := .empty) f.1 f.2).rereads hv ?_, rfl⟩, _,
      ih hvs fun w hw => hms w (List.mem_cons_of_mem _ hw), rfl⟩
    rw [extensionSpec_name]
    exact hms _ (List.mem_cons_self ..)

/-! ### Extension records -/

/-- The id of an extension record is always written. -/
theorem faithful_id :
    FaithfulField r (plain extensionId .text) (required extensionId text)
      (required extensionId text) (fun t => some (.text t)) id where
  writes ha := by
    obtain ⟨k, d, hd, ha⟩ := required_read_eq_ok.1 ha
    exact .inr ⟨k, d, hd, .inr ⟨_, text_faithful.renders ha, rfl⟩⟩
  rereads {es t ms} _ hms := by
    have hgiven : extensionId.given? (docEntries ms) = _ := hms.given?
    exact required_read_eq_ok.2 ⟨_, _, hgiven, rfl⟩

/-- A key that no field has holds nothing. -/
theorem valueOf?_of_notMem {ms : List Member} {key : String} (h : key ∉ ms.map Prod.fst) :
    valueOf? ms key = none := by
  induction ms with
  | nil => rfl
  | cons m ms ih =>
    rw [List.map_cons, List.mem_cons, not_or] at h
    rw [Member.valueOf?_cons, if_neg (Ne.symm h.1), ih h.2]

/-- Among fields with different keys each is found by its key. -/
theorem valueOf?_of_mem {ms : List Member} (hnd : (ms.map Prod.fst).Nodup) {m : Member}
    (h : m ∈ ms) : valueOf? ms m.1 = m.2 := by
  induction ms with
  | nil => cases h
  | cons n ms ih =>
    rw [List.map_cons, List.nodup_cons] at hnd
    rw [Member.valueOf?_cons]
    rcases List.mem_cons.1 h with rfl | h
    · rw [if_pos rfl, valueOf?_of_notMem hnd.1, Option.or_none]
    · rw [if_neg, ih hnd.2 h]
      rintro heq
      exact hnd.1 (heq ▸ List.mem_map_of_mem h)

/-- The names of the fields of an extension record, as the schema lists them. -/
theorem extension_specNames (shape : ExtensionShape) :
    (Part.extension shape).specs.map FieldSpec.name =
      extensionId :: shape.fields.map fun f => same f.1 := by
  rw [Part.specs, List.map_cons, List.map_map]
  congr 1
  exact List.map_congr_left fun f _ => by rw [Function.comp_apply, extensionSpec_name]

/-- Their keys. -/
theorem extension_keys (shape : ExtensionShape) :
    ((Part.extension shape).specs.map fun s => s.name.key) =
      "extensionid" :: shape.fields.map Prod.fst := by
  rw [show (fun s : FieldSpec => s.name.key) = FieldName.key ∘ FieldSpec.name from rfl,
    ← List.map_map, extension_specNames, List.map_cons, List.map_map]
  rfl

/-- All their names: the id has two. -/
theorem extension_names (shape : ExtensionShape) :
    (Part.extension shape).names =
      "extensionid" :: "extension_id" :: shape.fields.map Prod.fst := by
  have hfield : (fun f : String × ExtensionField => (extensionSpec f.1 f.2).name.all) =
      fun f => [f.1] := by
    funext f
    rw [extensionSpec_name]
    exact if_pos rfl
  rw [Part.names, Part.specs, List.flatMap_cons, List.flatMap_map, hfield, ← List.map_eq_flatMap]
  rfl

/-- **Extension records of a well-formed shape are faithful.** -/
theorem extensionOf_faithful {shape : ExtensionShape} (hshape : shape.WellFormed) :
    Faithful r (.part (.extension shape)) (extensionOf shape) (extensionOf shape)
      Extension.document Extension.back := by
  have hall := hshape.names_nodup
  have hnd : ("extensionid" :: shape.fields.map Prod.fst).Nodup :=
    hall.sublist (.cons_cons _ (List.sublist_cons_self ..))
  have hsecond : "extension_id" ∉ shape.fields.map Prod.fst :=
    (List.nodup_cons.1 (List.nodup_cons.1 hall).2).1
  have hnames := (extension_specNames shape).symm
  refine record_faithful ?_ ?_ (extension_names shape ▸ hall) fun es a h => ?_
  · rw [Fields.seq_names, Fields.map_names, extensionFields_names]
    exact hnames
  · rw [Fields.seq_names, Fields.map_names, extensionFields_names]
    exact hnames
  · simp only [Fields.map_read_eq_ok, Fields.seq_read_eq_ok] at h
    obtain ⟨_, ⟨id, h₁, rfl⟩, vs, h₂, rfl⟩ := h
    have hwrites : WritesAll r (Part.extension shape).specs es
        (.word "extensionid" id :: vs.map fun v => v.2.member v.1) :=
      .cons ⟨rfl, faithful_id.writes h₁⟩ (extensionFields_writes h₂)
    have hms := hwrites.keys_eq.trans (extension_keys shape)
    refine ⟨_, rfl, hwrites, ?_⟩
    rw [Fields.seq_read, Fields.map_read,
      (faithful_id (r := r)).rereads h₁ ⟨valueOf?_of_mem (m := .word "extensionid" id) (hms ▸ hnd)
        (List.mem_cons_self ..), .inl (valueOf?_of_notMem ?_)⟩,
      extensionFields_rereads h₂ fun v hv => ⟨?_, .inr rfl⟩]
    · rfl
    · have := valueOf?_of_mem (m := v.2.member v.1) (hms ▸ hnd)
        (List.mem_cons_of_mem _ (List.mem_map_of_mem (f := fun v => v.2.member v.1) hv))
      rwa [member_fst] at this
    -- No field of a shape is called by the second name of the identifier, so nothing else is taken
    -- for it.
    · rw [hms, List.mem_cons, not_or]
      exact ⟨by decide, hsecond⟩

/-- Translating faults does not change what succeeds. -/
theorem mapError_eq_ok {ε ε' : Type} {f : ε → ε'} {x : Except ε α} {a : α} :
    x.mapError f = .ok a ↔ x = .ok a := by
  cases x <;> simp [Except.mapError]

/-- A shape is found by the text of an id, and only by one that is registered. -/
theorem shapeFor?_eq_ok {id : Doc} {shape : ExtensionShape} :
    shapeFor? (some r) id = .ok (some shape) ↔
      ∃ t, id.unmarked = .scalar (.text t) ∧ r.get? t = some shape := by
  rw [shapeFor?, collectionKind?]
  cases id.unmarked with
  | scalar s => cases s <;> simp
  | _ => simp

/-- An extension record is read by the shape that its id stands for. -/
theorem extension_eq_ok {d : Doc} {e : Extension} :
    extension (some r) d = .ok e ↔
      ∃ es id shape, d.unmarked = .map es ∧ (givenId es).unmarked = .scalar (.text id) ∧
        r.get? id = some shape ∧ extensionOf shape d = .ok e := by
  rw [extension]
  split
  · next es hes =>
    simp only [bind, Except.bind]
    constructor
    · intro h
      split at h
      · cases h
      · next shape? hshape =>
        split at h
        · cases h
        · next shape =>
          obtain ⟨id, hid, hget⟩ := shapeFor?_eq_ok.1 hshape
          exact ⟨es, id, shape, hes, hid, hget, mapError_eq_ok.1 h⟩
    · rintro ⟨es', id, shape, hes', hid, hget, h⟩
      rw [hes, Doc.map.injEq] at hes'
      subst hes'
      rw [shapeFor?_eq_ok.2 ⟨id, hid, hget⟩]
      exact mapError_eq_ok.2 h
  · next hd =>
    constructor
    · intro h
      cases h
    · rintro ⟨es, _, _, hes, -⟩
      exact absurd hes (hd es)

/-- The id that is given is the one that is read. -/
theorem extensionOf_id {shape : ExtensionShape} {d : Doc} {es : List (Scalar × Doc)} {e : Extension}
    {id : Text} (h : extensionOf shape d = .ok e) (hes : d.unmarked = .map es)
    (hid : (givenId es).unmarked = .scalar (.text id)) : e.id = id := by
  obtain ⟨es', hes', h⟩ := record_eq_ok.1 h
  rw [hes, Doc.map.injEq] at hes'
  subst hes'
  obtain ⟨-, -, h⟩ := ofEntries_eq_ok.1 h
  simp only [Fields.map_read_eq_ok, Fields.seq_read_eq_ok] at h
  obtain ⟨_, ⟨id', h₁, rfl⟩, vs, -, rfl⟩ := h
  obtain ⟨k, d', hd', h₁⟩ := required_read_eq_ok.1 h₁
  rw [givenId, hd'] at hid
  rw [text, hid] at h₁
  exact (Except.ok.inj h₁).symm

/-- The id that is written is given. -/
theorem givenId_document (e : Extension) :
    ∃ es, e.document.toDoc = .map es ∧ (givenId es).unmarked = .scalar (.text e.id) := by
  let ms := .word "extensionid" e.id :: e.fields.map fun f => f.2.member f.1
  have hvalue : valueOf? ms extensionId.key = some (.text e.id) := by
    simp [ms, extensionId]
  have hfield : Doc.field? extensionId.key (docEntries ms) = some (.scalar (.text e.id)) := by
    rw [Member.field?_docEntries, hvalue]
    rfl
  refine ⟨docEntries ms, rfl, ?_⟩
  rw [givenId, FieldName.given?, hfield]
  rfl

/-- Every registered shape is well formed. -/
theorem wellFormed_of_get? {id : Text} {shape : ExtensionShape} (h : r.get? id = some shape) :
    shape.WellFormed := by
  obtain ⟨e, he, rfl⟩ := Option.map_eq_some_iff.1 h
  exact r.wellFormed e (List.mem_of_find?_eq_some he)

/-- The decoder of extension records without the reasons of its refusals. -/
def anyExtension (r : ExtensionRegistry) : Decoder Extension := fun d =>
  match extension (some r) d with
  | .ok e => .ok e
  | .error _ => .error []

/-- It reads what the decoder with the reasons reads. -/
theorem anyExtension_eq_ok {d : Doc} {e : Extension} :
    anyExtension r d = .ok e ↔ extension (some r) d = .ok e := by
  rw [anyExtension]
  split
  · next h => rw [h]; simp
  · next h => rw [h]; simp

/-- **An extension record is faithful**: its shape is found again by its id. -/
theorem extension_faithful : Faithful r .anyExtension (anyExtension r) (anyExtension r)
    Extension.document Extension.back where
  renders h := by
    obtain ⟨es, id, shape, hes, hid, hshape, h⟩ := extension_eq_ok.1 (anyExtension_eq_ok.1 h)
    refine ((extensionOf_faithful (wellFormed_of_get? hshape)).renders h).of_part fun es' hes' => ?_
    rw [hes, Doc.map.injEq] at hes'
    exact hes' ▸ ⟨id, hid, hshape⟩
  rereads {d e} h := by
    obtain ⟨es, id, shape, hes, hid, hshape, h⟩ := extension_eq_ok.1 (anyExtension_eq_ok.1 h)
    obtain ⟨fs, hfs, hgiven⟩ := givenId_document e
    exact anyExtension_eq_ok.2 (extension_eq_ok.2 ⟨fs, id, shape, by rw [hfs]; rfl,
      extensionOf_id h hes hid ▸ hgiven, hshape,
      (extensionOf_faithful (r := r) (wellFormed_of_get? hshape)).rereads h⟩)

/-! ### Workflows -/

/-- A run over a list succeeds exactly if it does so member by member. -/
theorem mapM_eq_ok {ε : Type} {f : α → Except ε β} {as : List α} {bs : List β} :
    as.mapM f = .ok bs ↔ List.Forall₂ (fun a b => f a = .ok b) as bs := by
  induction as generalizing bs with
  | nil => cases bs <;> simp [pure, Except.pure]
  | cons a as ih =>
    rw [List.mapM_cons]
    constructor
    · intro h
      cases ha : f a with
      | error e => rw [ha] at h; cases h
      | ok b =>
        cases hs : as.mapM f with
        | error e => rw [ha, hs] at h; cases h
        | ok bs =>
          rw [ha, hs] at h
          cases h
          exact .cons ha (ih.1 hs)
    · rintro (_ | ⟨h, hs⟩)
      rw [h, ih.2 hs]
      rfl

/-- The list of extension records is read as any other list is: its own way of numbering faults does
not matter here. -/
theorem extensionList_eq_ok {d : Doc} {xs : List Extension}
    (h : extensionList (some r) d = .ok xs) : list (anyExtension r) d = .ok xs := by
  rw [extensionList] at h
  split at h
  · next ds hds =>
    refine list_eq_ok.2 ⟨ds, by rw [items?, hds], ?_⟩
    exact (mapM_eq_ok.1 h).imp fun _ _ h => anyExtension_eq_ok.2 h
  · next ps hps =>
    split at h
    · next hnil =>
      cases h
      rw [List.isEmpty_iff.1 hnil] at hps
      exact list_eq_ok.2 ⟨[], by rw [items?, hps]; rfl, .nil⟩
    · cases h
  · obtain ⟨ds, hds, hxs⟩ := list_eq_ok.1 (mapError_eq_ok.1 h)
    cases hxs with
    | nil => exact list_eq_ok.2 ⟨[], hds, .nil⟩
    | cons hx => exact absurd hx Checked.fail_ne_ok

/-- And the other way round, for a list that was written. -/
theorem extensionList_toDoc {vs : List Value} {xs : List Extension}
    (h : list (anyExtension r) (Value.list vs).toDoc = .ok xs) :
    extensionList (some r) (Value.list vs).toDoc = .ok xs := by
  obtain ⟨ds, hds, hxs⟩ := list_eq_ok.1 h
  cases hds
  exact mapM_eq_ok.2 (hxs.imp fun _ _ h => anyExtension_eq_ok.1 h)

/-- A workflow is read from a mapping whose fields can be read, if no extension record in it has a
collection for its id. -/
theorem workflow_eq_ok {d : Doc} {w : Workflow} :
    workflow (some r) d = .ok w ↔
      ∃ es, d.unmarked = .map es ∧ collectionId? (some r) es = none ∧
        ofEntries (workflowFields (some r)) es = .ok w := by
  rw [workflow]
  split
  · next es hes =>
    simp only [hes, Doc.map.injEq]
    split
    · next k hk => simp [hk]
    · next hk => simp [hk, mapError_eq_ok]
  · next hd =>
    simp only [reduceCtorEq, false_iff, not_exists, not_and]
    exact fun es hes => absurd hes (hd es)

/-- If no extension id is a collection, the field `extensions` is a list of records. -/
theorem extensions_read {es : List (Scalar × Doc)} {xs : List Extension}
    (hid : collectionId? (some r) es = none)
    (h : (withDefault (same "extensions") [] (extensions (some r))).read es = .ok xs) :
    (withDefault (same "extensions") [] (list (anyExtension r))).read es = .ok xs := by
  rw [withDefault_read_eq_ok] at h ⊢
  refine h.imp_right fun ⟨k, d, hd, hxs⟩ => ⟨k, d, hd, ?_⟩
  have hfield : Doc.field? "extensions" es = some d := by
    rw [FieldName.given?, same_key, same_second] at hd
    cases hf : Doc.field? "extensions" es with
    | none => rw [hf] at hd; cases hd
    | some d' =>
      rw [hf] at hd
      exact congrArg some (Prod.mk.inj (Option.some.inj hd)).2
  simp only [collectionId?, hfield] at hid
  rw [extensions] at hxs
  split at hxs
  · next ys hys => exact Except.ok.inj hxs ▸ extensionList_eq_ok hys
  · cases hxs
  · next kind hkind => rw [hkind] at hid; cases hid

/-- A list of records that is written is read without a look at collections. -/
theorem extensions_rereads (vs : List Value) {ms : List Member} {xs : List Extension}
    (hms : Holds ms (same "extensions") (Member.list "extensions" vs).2)
    (h : (withDefault (same "extensions") [] (list (anyExtension r))).read (docEntries ms) =
      .ok xs) :
    collectionId? (some r) (docEntries ms) = none ∧
      (withDefault (same "extensions") [] (extensions (some r))).read (docEntries ms) =
        .ok xs := by
  have hfield : Doc.field? "extensions" (docEntries ms) = _ :=
    (Member.field?_docEntries ms "extensions").trans (congrArg _ hms.1)
  rw [withDefault_read_eq_ok, hms.given?] at h ⊢
  rw [collectionId?, hfield]
  cases vs with
  | nil => exact ⟨rfl, .inl (h.resolve_right fun ⟨_, _, hd, _⟩ => nomatch hd)⟩
  | cons v vs =>
    rcases h with ⟨hn, -⟩ | ⟨k, d, hd, hxs⟩
    · cases hn
    · cases hd
      have hlist := extensionList_toDoc hxs
      refine ⟨?_, .inr ⟨_, _, rfl, by rw [extensions, hlist]⟩⟩
      simp [Member.list, hlist]

/-- What is written of a workflow renders what was given and is read again, field by field. -/
theorem workflowFields_faithful {es : List (Scalar × Doc)} {w : Workflow}
    (hid : collectionId? (some r) es = none) (h : (workflowFields (some r)).read es = .ok w) :
    ∃ ms, w.document = .ofMembers ms ∧ WritesAll r Part.workflow.specs es ms ∧
      collectionId? (some r) (docEntries ms) = none ∧
        (workflowFields (some r)).read (docEntries ms) = .ok w.back := by
  simp only [workflowFields, Fields.map_read_eq_ok, Fields.seq_read_eq_ok] at h
  obtain ⟨_, ⟨_, ⟨_, ⟨_, ⟨_, ⟨_, ⟨_, ⟨id, h₁, rfl⟩, name, h₂, rfl⟩, version, h₃, rfl⟩,
    startsAt, h₄, rfl⟩, triggers, h₅, rfl⟩, states, h₆, rfl⟩, metadata, h₇, rfl⟩,
    extensions, h₈, rfl⟩ := h
  have htriggers := (trigger_faithful (r := r)).list_id ⟨"trigger-defs", "trigger_defs"⟩
  have hstates := (state_faithful (r := r)).list (same "states")
  have hextensions := (extension_faithful (r := r)).list (same "extensions")
  replace h₈ := extensions_read hid h₈
  refine ⟨_, rfl, .cons ⟨rfl, (faithful_text _).writes h₁⟩
    (.cons ⟨rfl, (faithful_text _).writes h₂⟩ (.cons ⟨rfl, (faithful_text _).writes h₃⟩
      (.cons ⟨rfl, (faithful_text _).writes h₄⟩ (.cons ⟨rfl, htriggers.writes h₅⟩
        (.cons ⟨rfl, ?_⟩ (.cons ⟨rfl, (faithful_texts _).writes h₇⟩
          (.cons ⟨rfl, hextensions.writes h₈⟩ .nil))))))), ?_⟩
  · rw [State.documents_eq_map]
    exact hstates.writes h₆
  · rw [State.documents_eq_map]
    refine (extensions_rereads (extensions.map Extension.document) (by simp [Holds])
      (hextensions.rereads h₈ (by simp [Holds]))).imp_right fun h₈' => ?_
    rw [workflowFields, Fields.seq_read, Fields.seq_read, Fields.seq_read, Fields.seq_read,
      Fields.seq_read, Fields.seq_read, Fields.seq_read, Fields.map_read,
      (faithful_text (r := r) _).rereads h₁ (by simp [Holds]),
      (faithful_text (r := r) _).rereads h₂ (by simp [Holds]),
      (faithful_text (r := r) _).rereads h₃ (by simp [Holds]),
      (faithful_text (r := r) _).rereads h₄ (by simp [Holds]),
      htriggers.rereads h₅ (by simp [Holds]),
      hstates.rereads h₆ (by simp [Holds]),
      (faithful_texts (r := r) _).rereads h₇ (by simp [Holds]), h₈', Workflow.back,
      State.backAll_eq_map]
    rfl

/-- **What is written for a workflow renders what was given.** -/
theorem renders_workflow {d : Doc} {w : Workflow} (h : workflow (some r) d = .ok w) :
    Renders r WrittenTexts (.part .workflow) d w.document := by
  obtain ⟨es, hes, hid, h⟩ := workflow_eq_ok.1 h
  obtain ⟨-, hused, hread⟩ := ofEntries_eq_ok.1 h
  obtain ⟨ms, hms, hwrites, -⟩ := workflowFields_faithful hid hread
  rw [hms]
  exact renders_record hes rfl (by decide) hused hwrites

/-- **What is written for a workflow is read again**, with strings for the keys of mappings. -/
theorem workflow_document {d : Doc} {w : Workflow} (h : workflow (some r) d = .ok w) :
    workflow (some r) w.document.toDoc = .ok w.back := by
  obtain ⟨es, hes, hid, h⟩ := workflow_eq_ok.1 h
  obtain ⟨-, -, hread⟩ := ofEntries_eq_ok.1 h
  obtain ⟨ms, hms, hwrites, hid', hread'⟩ := workflowFields_faithful hid hread
  rw [hms]
  refine workflow_eq_ok.2 ⟨_, rfl, hid', ofEntries_docEntries (fun m hm => ?_) hread'⟩
  have hkey := List.mem_map_of_mem (f := Prod.fst) hm
  rw [hwrites.keys_eq] at hkey
  exact hkey

end Decode
end WorkflowKit
