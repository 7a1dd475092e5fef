/-
# What a workflow holds

The states of a workflow at any depth, and from them its integers and its mappings to texts.  Two
questions about a workflow are answered by them alone:

* a workflow can be written exactly if none of its integers is too long
  (`Workflow.holdsLongInt_document`);
* it comes back as it was exactly if no key of its mappings holds a half of a pair
  (`Workflow.back_eq_self`).
-/

import WorkflowKit.Proofs.Decode.Workflow

namespace WorkflowKit

/-! ### States, integers and mappings -/

namespace State

mutual

/-- A state and all states inside it. -/
def withInner : State → List State
  | parallel h bs n => parallel h bs n :: innerOfBranches bs
  | s => [s]

/-- The states of a branch and all states inside them. -/
def innerOfBranch : Branch → List State
  | .mk _ ss _ => allWithInner ss

/-- States and all states inside them. -/
def allWithInner : List State → List State
  | [] => []
  | s :: ss => withInner s ++ allWithInner ss

/-- The states of branches and all states inside them. -/
def innerOfBranches : List Branch → List State
  | [] => []
  | b :: bs => innerOfBranch b ++ innerOfBranches bs

end

/-- The states of a list, at any depth, are those of its members in order. -/
theorem allWithInner_eq_flatMap (ss : List State) : allWithInner ss = ss.flatMap withInner := by
  induction ss with
  | nil => rfl
  | cons s ss ih => rw [allWithInner, List.flatMap_cons, ih]

/-- The states inside some branches are those inside each of them in order. -/
theorem innerOfBranches_eq_flatMap (bs : List Branch) :
    innerOfBranches bs = bs.flatMap innerOfBranch := by
  induction bs with
  | nil => rfl
  | cons b bs ih => rw [innerOfBranches, List.flatMap_cons, ih]

/-- The actions that a state performs itself. -/
def actions : State → List Action
  | event _ es => es.flatMap Event.actions
  | operation _ _ as _ _ => as
  | _ => []

end State

/-- The integers of a retry declaration. -/
def Retry.integers (r : Retry) : List Int := r.maxRetry.toList ++ r.retryInterval.toList

/-- The integers of an action. -/
def Action.integers (a : Action) : List Int :=
  a.timeout.toList ++ a.retry.toList.flatMap Retry.integers

/-- The integers of a state itself. -/
def State.integers : State → List Int
  | event _ es => es.flatMap fun e => e.timeout.toList ++ e.actions.flatMap Action.integers
  | operation _ _ as _ _ => as.flatMap Action.integers
  | delay _ n _ => n.toList
  | _ => []

/-- The integers of a field of an extension record. -/
def ExtensionValue.integers : ExtensionValue → List Int
  | int n => [n]
  | _ => []

/-- The mapping of an action: the parameters of its function. -/
def Action.textMaps (a : Action) : List TextMap := a.function.toList.map Function.parameters

/-- The mappings of a field of an extension record. -/
def ExtensionValue.textMaps : ExtensionValue → List TextMap
  | texts m => [m]
  | _ => []

namespace Workflow

/-- The states at any depth. -/
def allStates (w : Workflow) : List State := State.allWithInner w.states

/-- The fields of the extension records. -/
def extensionValues (w : Workflow) : List ExtensionValue :=
  w.extensions.flatMap fun e => e.fields.map Prod.snd

/-- All integers of a workflow. -/
def integers (w : Workflow) : List Int :=
  w.allStates.flatMap State.integers ++ w.extensionValues.flatMap ExtensionValue.integers

/-- All mappings to texts of a workflow. -/
def textMaps (w : Workflow) : List TextMap :=
  w.metadata :: w.allStates.flatMap (fun s => s.actions.flatMap Action.textMaps) ++
    w.extensionValues.flatMap ExtensionValue.textMaps

end Workflow

/-! ### Integers that are too long -/

namespace Value

/-- What is asked of a list of values is whether one of them holds an integer that is too long. -/
theorem anyLongInt_eq_any (vs : List Value) : anyLongInt vs = vs.any holdsLongInt := by
  induction vs with
  | nil => rfl
  | cons v vs ih => rw [anyLongInt, ih, List.any_cons]

/-- What is asked of the entries of a mapping is asked of their values alone. -/
theorem anyEntryLongInt_eq_any (es : List (Text × Value)) :
    anyEntryLongInt es = es.any fun e => e.2.holdsLongInt := by
  induction es with
  | nil => rfl
  | cons e es ih => rw [anyEntryLongInt, ih, List.any_cons]

/-- Whether what is written for a field holds an integer that is too long. -/
def memberLong (m : Member) : Bool := m.2.any holdsLongInt

/-- The document of a record holds an integer that is too long exactly if one of its written fields
does. -/
theorem holdsLongInt_ofMembers (ms : List Member) :
    (ofMembers ms).holdsLongInt = ms.any memberLong := by
  rw [ofMembers, holdsLongInt, anyEntryLongInt_eq_any]
  induction ms with
  | nil => rfl
  | cons m ms ih =>
    obtain ⟨key, _ | v⟩ := m
    · simpa [memberLong, Member.entry?] using ih
    · simpa [memberLong, Member.entry?] using congrArg (v.holdsLongInt || ·) ih

@[simp]
theorem holdsLongInt_text (s : Text) : (text s).holdsLongInt = false := rfl

@[simp]
theorem holdsLongInt_bool (b : Bool) : (bool b).holdsLongInt = false := rfl

/-- An integer is too long by its digits: more than an integer may have to be turned into text. -/
@[simp]
theorem holdsLongInt_int (n : Int) : (int n).holdsLongInt = Number.exceedsDigitLimit n := rfl

@[simp]
theorem holdsLongInt_list (vs : List Value) :
    (list vs).holdsLongInt = vs.any holdsLongInt := anyLongInt_eq_any vs

variable (key : String)

/-- A field that is written holds what its value holds. -/
@[simp]
theorem memberLong_some (v : Value) : memberLong (key, some v) = v.holdsLongInt := rfl

/-- An optional field holds a long integer only if it is given. -/
@[simp]
theorem memberLong_map {α : Type} (f : α → Value) (a : Option α) :
    memberLong (key, a.map f) = a.any fun a => (f a).holdsLongInt := by
  cases a <;> rfl

/-- A list that is left out when it is empty holds what its members hold. -/
@[simp]
theorem memberLong_list (vs : List Value) :
    memberLong (key, if vs = [] then none else some (list vs)) = vs.any holdsLongInt := by
  cases vs <;> simp [memberLong]

/-- The same for the documents of some records, asked of the records. -/
@[simp]
theorem memberLong_list_map {α : Type} (f : α → Value) (as : List α) :
    memberLong (key, if as = [] then none else some (list (as.map f))) =
      as.any fun a => (f a).holdsLongInt := by
  cases as <;> simp [memberLong, Function.comp_def]

/-- A mapping to texts holds no integers. -/
@[simp]
theorem memberLong_texts (m : TextMap) :
    memberLong (key, if m.entries = [] then none else some (map (Member.writtenTexts m))) =
      false := by
  rw [memberLong, Decode.writtenTexts_eq_map]
  split
  · rfl
  · simp [holdsLongInt, anyEntryLongInt_eq_any]

/-- An optional value and its list of at most one member answer alike. -/
@[simp]
theorem any_toList {α : Type} (p : α → Bool) (a : Option α) : a.toList.any p = a.any p := by
  cases a <;> simp

@[simp]
theorem any_const_false {α : Type} (a : Option α) : a.any (fun _ => false) = false := by
  cases a <;> rfl

end Value

open Value (holdsLongInt holdsLongInt_ofMembers)
open Number (exceedsDigitLimit)

/-- Triggers hold no integers, so they can always be written. -/
@[simp]
theorem Trigger.holdsLongInt_document (t : Trigger) : t.document.holdsLongInt = false := by
  simp [document, holdsLongInt_ofMembers]

/-- Functions hold texts alone. -/
@[simp]
theorem Function.holdsLongInt_document (f : Function) : f.document.holdsLongInt = false := by
  simp [document, holdsLongInt_ofMembers]

/-- Filters hold texts alone. -/
@[simp]
theorem Filter.holdsLongInt_document (f : Filter) : f.document.holdsLongInt = false := by
  simp [document, holdsLongInt_ofMembers]

/-- A test of a choice holds texts alone. -/
@[simp]
theorem SingleChoice.holdsLongInt_document (c : SingleChoice) :
    c.document.holdsLongInt = false := by
  simp [document, holdsLongInt_ofMembers]

/-- Choices hold texts alone, in either of their two forms. -/
@[simp]
theorem Choice.holdsLongInt_document (c : Choice) : c.document.holdsLongInt = false := by
  cases c <;> simp [document, holdsLongInt_ofMembers]

/-- A retry declaration can be written exactly if its number of tries and its interval can. -/
@[simp]
theorem Retry.holdsLongInt_document (r : Retry) :
    r.document.holdsLongInt = r.integers.any exceedsDigitLimit := by
  simp [document, integers, holdsLongInt_ofMembers]

/-- The integers of an action are its timeout and those of its retry declaration. -/
@[simp]
theorem Action.holdsLongInt_document (a : Action) :
    a.document.holdsLongInt = a.integers.any exceedsDigitLimit := by
  simp [document, integers, holdsLongInt_ofMembers, List.any_flatMap]

/-- The integers of an event are its timeout and those of its actions. -/
@[simp]
theorem Event.holdsLongInt_document (e : Event) :
    e.document.holdsLongInt =
      (e.timeout.toList ++ e.actions.flatMap Action.integers).any exceedsDigitLimit := by
  simp [document, holdsLongInt_ofMembers, List.any_flatMap]

/-- What all kinds of states have in common holds no integers. -/
@[simp]
theorem StateHead.any_memberLong (h : StateHead) (k : StateKind) :
    (h.members k).any Value.memberLong = false := by
  simp [members]

namespace State

theorem integers_parallel (h : StateHead) (bs : List Branch) (n : Option Text) :
    (parallel h bs n).integers = [] := rfl

mutual

/-- The integers of a state are those of the states inside it. -/
theorem holdsLongInt_document (s : State) :
    s.document.holdsLongInt = s.withInner.any fun t => t.integers.any exceedsDigitLimit := by
  cases s with
  | parallel h bs n =>
    rw [document, holdsLongInt_ofMembers, List.any_append, StateHead.any_memberLong, withInner]
    simp [any_branchDocuments bs, integers_parallel]
  | _ =>
    simp [document, withInner, integers, holdsLongInt_ofMembers, List.any_flatMap]

/-- A branch can be written exactly if the states inside it can. -/
theorem holdsLongInt_branchDocument (b : Branch) :
    (branchDocument b).holdsLongInt =
      (innerOfBranch b).any fun t => t.integers.any exceedsDigitLimit := by
  obtain ⟨name, ss, waits⟩ := b
  simp [branchDocument, innerOfBranch, holdsLongInt_ofMembers, any_documents ss]

/-- Some states can be written exactly if they and all states inside them can. -/
theorem any_documents (ss : List State) :
    (documents ss).any holdsLongInt =
      (allWithInner ss).any fun t => t.integers.any exceedsDigitLimit := by
  cases ss with
  | nil => rfl
  | cons s ss =>
    rw [documents, List.any_cons, holdsLongInt_document s, any_documents ss, allWithInner,
      List.any_append]

/-- Some branches can be written exactly if the states inside them can. -/
theorem any_branchDocuments (bs : List Branch) :
    (branchDocuments bs).any holdsLongInt =
      (innerOfBranches bs).any fun t => t.integers.any exceedsDigitLimit := by
  cases bs with
  | nil => rfl
  | cons b bs =>
    rw [branchDocuments, List.any_cons, holdsLongInt_branchDocument b, any_branchDocuments bs,
      innerOfBranches, List.any_append]

end

end State

/-- A field of an extension record, of whichever type, can be written exactly if its integers can.
-/
@[simp]
theorem ExtensionValue.memberLong_member (key : String) (v : ExtensionValue) :
    Value.memberLong (v.member key) = v.integers.any exceedsDigitLimit := by
  cases v <;> simp [member, integers, holdsLongInt]

/-- An extension record can be written exactly if the integers of all its fields can. -/
@[simp]
theorem Extension.holdsLongInt_document (e : Extension) :
    e.document.holdsLongInt =
      (e.fields.map Prod.snd).any fun v => v.integers.any exceedsDigitLimit := by
  simp [document, holdsLongInt_ofMembers, List.any_map, Function.comp_def]

/-- **A workflow holds an integer that is too long if one of its integers is.** -/
theorem Workflow.holdsLongInt_document (w : Workflow) :
    w.document.holdsLongInt = w.integers.any exceedsDigitLimit := by
  simp [document, integers, allStates, extensionValues, holdsLongInt_ofMembers, List.any_flatMap,
    List.any_map, Function.comp_def, State.any_documents]

/-! ### Keys that hold a half -/

/-- A function changes no member of a list exactly if it leaves the list as it is. -/
theorem map_eq_self {α : Type} {f : α → α} {as : List α} :
    as.map f = as ↔ ∀ a ∈ as, f a = a := by
  simpa using List.map_inj_left (l := as) (f := f) (g := id)

/-- The keys that come back hold no half. -/
theorem Decode.holdsHalf_of_mem_stringKeys {m : TextMap} {k : Text}
    (h : k ∈ (stringKeys m).keys) : k.holdsHalf = false := by
  have hk := mem_keys_distinctEntries.1 h
  rw [List.map_map, List.mem_map] at hk
  obtain ⟨e, -, rfl⟩ := hk
  exact Text.holdsHalf_ofString _

/-- **A mapping comes back as it was exactly if no key holds a half of a pair.** -/
theorem Decode.stringKeys_eq_self {m : TextMap} :
    stringKeys m = m ↔ ∀ k ∈ m.keys, k.holdsHalf = false := by
  constructor
  · exact fun h k hk => holdsHalf_of_mem_stringKeys (h.symm ▸ hk)
  · intro h
    have hmap : m.entries.map (fun e => (Text.ofString e.1.lossy, e.2)) = m.entries :=
      map_eq_self.2 fun e he => by rw [Text.lossy_of_holdsHalf (h _ (List.mem_map_of_mem he))]
    rw [stringKeys, hmap, TextMap.ofEntries, TextMap.mk.injEq, distinctEntries_of_nodup m.nodup]

/-- A function comes back as it was exactly if its parameters keep their keys. -/
theorem Function.back_eq_self {f : Function} :
    f.back = f ↔ Decode.stringKeys f.parameters = f.parameters := by
  obtain ⟨name, type, parameters⟩ := f
  simp [back]

/-- An action comes back as it was exactly if the parameters of its function keep their keys. -/
theorem Action.back_eq_self {a : Action} :
    a.back = a ↔ ∀ m ∈ a.textMaps, Decode.stringKeys m = m := by
  obtain ⟨_ | f, timeout, retry⟩ := a
  · simp [back, textMaps]
  · simp [back, textMaps, Function.back_eq_self]

/-- An event comes back as it was exactly if the parameters of all its actions keep their keys. -/
theorem Event.back_eq_self {e : Event} :
    e.back = e ↔ ∀ a ∈ e.actions, ∀ m ∈ a.textMaps, Decode.stringKeys m = m := by
  obtain ⟨expression, next, mode, timeout, actions⟩ := e
  simp [back, map_eq_self, Action.back_eq_self]

namespace State

/-- Whether the mappings of the actions of some states come back as they were. -/
def KeepKeys (ss : List State) : Prop :=
  ∀ s ∈ ss, ∀ a ∈ s.actions, ∀ m ∈ a.textMaps, Decode.stringKeys m = m

/-- Two lists of states keep their keys exactly if each of them does. -/
theorem keepKeys_append {ss ts : List State} :
    KeepKeys (ss ++ ts) ↔ KeepKeys ss ∧ KeepKeys ts :=
  List.forall_mem_append

/-- A parallel state performs no actions itself: they are in the states of its branches. -/
theorem actions_parallel (h : StateHead) (bs : List Branch) (n : Option Text) :
    (parallel h bs n).actions = [] := rfl

mutual

/-- A state comes back as it was exactly if the actions in it, at any depth, keep their keys. -/
theorem back_eq_self (s : State) : s.back = s ↔ KeepKeys s.withInner := by
  cases s with
  | parallel h bs n =>
    have hcons : KeepKeys (parallel h bs n :: innerOfBranches bs) ↔
        KeepKeys (innerOfBranches bs) := by
      simp [KeepKeys, actions_parallel]
    rw [withInner, hcons, ← backBranches_eq_self bs]
    simp [back]
  | event h es =>
    simp only [back, event.injEq, true_and, map_eq_self, Event.back_eq_self, withInner, KeepKeys,
      List.mem_singleton, forall_eq, actions, List.mem_flatMap]
    exact ⟨fun h a ⟨e, he, ha⟩ => h e he a ha, fun h e he a ha => h a ⟨e, he, ha⟩⟩
  | operation h m as n f =>
    simp [back, withInner, KeepKeys, actions, map_eq_self, Action.back_eq_self]
  | _ => simp [back, withInner, KeepKeys, actions]

/-- The same for a branch, by induction together with states. -/
theorem backBranch_eq_self (b : Branch) : backBranch b = b ↔ KeepKeys (innerOfBranch b) := by
  obtain ⟨name, ss, waits⟩ := b
  simp [backBranch, innerOfBranch, backAll_eq_self ss]

/-- The same for some states. -/
theorem backAll_eq_self (ss : List State) : backAll ss = ss ↔ KeepKeys (allWithInner ss) := by
  cases ss with
  | nil => simp [backAll, allWithInner, KeepKeys]
  | cons s ss =>
    rw [backAll, List.cons.injEq, back_eq_self s, backAll_eq_self ss, allWithInner,
      keepKeys_append]

/-- The same for some branches. -/
theorem backBranches_eq_self (bs : List Branch) :
    backBranches bs = bs ↔ KeepKeys (innerOfBranches bs) := by
  cases bs with
  | nil => simp [backBranches, innerOfBranches, KeepKeys]
  | cons b bs =>
    rw [backBranches, List.cons.injEq, backBranch_eq_self b, backBranches_eq_self bs,
      innerOfBranches, keepKeys_append]

end

end State

/-- A field of an extension record comes back as it was exactly if its mappings keep their keys. -/
theorem ExtensionValue.back_eq_self {v : ExtensionValue} :
    v.back = v ↔ ∀ m ∈ v.textMaps, Decode.stringKeys m = m := by
  cases v <;> simp [back, textMaps]

/-- An extension record comes back as it was exactly if all its fields do. -/
theorem Extension.back_eq_self {e : Extension} :
    e.back = e ↔ ∀ f ∈ e.fields, ∀ m ∈ f.2.textMaps, Decode.stringKeys m = m := by
  obtain ⟨shape, id, fields⟩ := e
  simp only [back, Extension.mk.injEq, true_and, map_eq_self, Prod.ext_iff,
    ExtensionValue.back_eq_self]

/-- The same for some states, with the mappings collected in one list, as `Workflow.textMaps` has
them. -/
theorem State.backAll_eq_self_iff {ss : List State} :
    backAll ss = ss ↔
      ∀ m ∈ (allWithInner ss).flatMap (fun s => s.actions.flatMap Action.textMaps),
        Decode.stringKeys m = m := by
  simp only [backAll_eq_self, KeepKeys, List.mem_flatMap]
  exact ⟨fun h m ⟨s, hs, a, ha, hm⟩ => h s hs a ha m hm,
    fun h s hs a ha m hm => h m ⟨s, hs, a, ha, hm⟩⟩

/-- The same for the extension records, with the mappings collected in one list. -/
theorem Extension.map_back_eq_self {xs : List Extension} :
    xs.map Extension.back = xs ↔
      ∀ m ∈ (xs.flatMap fun e => e.fields.map Prod.snd).flatMap ExtensionValue.textMaps,
        Decode.stringKeys m = m := by
  simp only [map_eq_self, back_eq_self, List.mem_flatMap, List.mem_map]
  refine ⟨fun h m ⟨_, ⟨e, he, f, hf, rfl⟩, hm⟩ => h e he f hf m hm,
    fun h e he f hf m hm => h m ⟨_, ⟨e, he, f, hf, rfl⟩, hm⟩⟩

/-- **A workflow comes back as it was exactly if no key of its mappings holds a half of a pair.** -/
theorem Workflow.back_eq_self {w : Workflow} :
    w.back = w ↔ ∀ m ∈ w.textMaps, ∀ k ∈ m.keys, k.holdsHalf = false := by
  obtain ⟨id, name, version, startsAt, triggers, states, metadata, extensions⟩ := w
  simp only [back, Workflow.mk.injEq, true_and, State.backAll_eq_self_iff,
    Extension.map_back_eq_self, textMaps, allStates, extensionValues, List.cons_append,
    List.forall_mem_cons, List.forall_mem_append, ← Decode.stringKeys_eq_self]
  exact and_left_comm

end WorkflowKit
