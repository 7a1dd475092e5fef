/-
# Entries with distinct keys

`distinctEntries` keeps one entry of each key: the keys of what it gives are distinct and are those
that it was given (`mem_keys_distinctEntries`), in the order in which they occur first
(`keys_distinctEntries`), each with its last value (`lookup?_distinctEntries`).  Entries whose keys
are distinct already stay as they are (`distinctEntries_of_nodup`).
-/

import Mathlib.Data.List.Forall2
import Mathlib.Data.List.Induction
import WorkflowKit.Entries

namespace WorkflowKit

variable {κ α : Type} [BEq κ] [LawfulBEq κ]

/-- An entry whose key is new comes last. -/
theorem putEntry_of_notMem {key : κ} {value : α} {es : List (κ × α)}
    (h : key ∉ es.map Prod.fst) : putEntry key value es = es ++ [(key, value)] := by
  induction es with
  | nil => rfl
  | cons e es ih =>
    rw [List.map_cons, List.mem_cons, not_or] at h
    rw [putEntry, if_neg (by simpa using Ne.symm h.1), ih h.2, List.cons_append]

theorem foldl_putEntry_append (acc : List (κ × α)) {es : List (κ × α)}
    (h : ((acc ++ es).map Prod.fst).Nodup) :
    es.foldl (fun acc e => putEntry e.1 e.2 acc) acc = acc ++ es := by
  induction es generalizing acc with
  | nil => simp
  | cons e es ih =>
    have hnew : e.1 ∉ acc.map Prod.fst := by
      rw [List.map_append, List.nodup_append] at h
      exact fun hmem => h.2.2 _ hmem _ (by simp) rfl
    rw [List.foldl_cons, putEntry_of_notMem hnew, ih _ (by simpa using h)]
    simp

/-- **Distinct keys stay as they are.** -/
theorem distinctEntries_of_nodup {es : List (κ × α)} (h : (es.map Prod.fst).Nodup) :
    distinctEntries es = es :=
  foldl_putEntry_append [] h

theorem mem_keys_foldl_putEntry {k : κ} {acc es : List (κ × α)} :
    k ∈ (es.foldl (fun acc e => putEntry e.1 e.2 acc) acc).map Prod.fst ↔
      k ∈ acc.map Prod.fst ∨ k ∈ es.map Prod.fst := by
  induction es generalizing acc with
  | nil => simp
  | cons e es ih =>
    rw [List.foldl_cons, ih, mem_keys_putEntry, List.map_cons, List.mem_cons,
      or_comm (a := k = e.1),
      or_assoc]

/-- **Every key is kept, and no other.** -/
theorem mem_keys_distinctEntries {k : κ} {es : List (κ × α)} :
    k ∈ (distinctEntries es).map Prod.fst ↔ k ∈ es.map Prod.fst := by
  rw [distinctEntries, mem_keys_foldl_putEntry]
  simp

omit [LawfulBEq κ] in
/-- What holds of all values that are written holds of all that are kept. -/
theorem forall_mem_foldl_putEntry {p : α → Prop} {acc es : List (κ × α)}
    (hacc : ∀ e ∈ acc, p e.2) (hes : ∀ e ∈ es, p e.2) :
    ∀ e ∈ es.foldl (fun acc e => putEntry e.1 e.2 acc) acc, p e.2 := by
  induction es generalizing acc with
  | nil => exact hacc
  | cons f es ih =>
    refine ih (fun e he => ?_) fun e he => hes e (List.mem_cons_of_mem _ he)
    rcases eq_or_mem_of_mem_putEntry he with h | h
    · exact h ▸ hes f (List.mem_cons_self ..)
    · exact hacc e h

omit [LawfulBEq κ] in
theorem forall_mem_distinctEntries {p : α → Prop} {es : List (κ × α)}
    (h : ∀ e ∈ es, p e.2) : ∀ e ∈ distinctEntries es, p e.2 :=
  forall_mem_foldl_putEntry (by simp) h

omit [LawfulBEq κ] in
theorem putEntry_map {β : Type} (f : α → β) (key : κ) (value : α) (es : List (κ × α)) :
    putEntry key (f value) (es.map fun e => (e.1, f e.2)) =
      (putEntry key value es).map fun e => (e.1, f e.2) := by
  induction es with
  | nil => rfl
  | cons e es ih =>
    rw [List.map_cons, putEntry, putEntry]
    split
    · rfl
    · rw [ih, List.map_cons]

omit [LawfulBEq κ] in
theorem foldl_putEntry_map {β : Type} (f : α → β) (es acc : List (κ × α)) :
    (es.map fun e => (e.1, f e.2)).foldl (fun acc e => putEntry e.1 e.2 acc)
      (acc.map fun e => (e.1, f e.2)) =
        (es.foldl (fun acc e => putEntry e.1 e.2 acc) acc).map fun e => (e.1, f e.2) := by
  induction es generalizing acc with
  | nil => rfl
  | cons e es ih => simp only [List.map_cons, List.foldl_cons, putEntry_map, ih]

omit [LawfulBEq κ] in
/-- Which entries are kept does not depend on the values. -/
theorem distinctEntries_map {β : Type} (f : α → β) (es : List (κ × α)) :
    distinctEntries (es.map fun e => (e.1, f e.2)) =
      (distinctEntries es).map fun e => (e.1, f e.2) :=
  foldl_putEntry_map f es []

omit [LawfulBEq κ] in
/-- Entries that are written under the same keys keep what their values have to do with each
other. -/
theorem forall₂_putEntry {β : Type} {r : α → β → Prop} {es : List (κ × α)} {fs : List (κ × β)}
    (h : List.Forall₂ (fun e f => e.1 = f.1 ∧ r e.2 f.2) es fs) (key : κ) {a : α} {b : β}
    (hab : r a b) :
    List.Forall₂ (fun e f => e.1 = f.1 ∧ r e.2 f.2) (putEntry key a es) (putEntry key b fs) := by
  induction h with
  | nil => exact .cons ⟨rfl, hab⟩ .nil
  | @cons e f es fs hef h ih =>
    rw [putEntry, putEntry, hef.1]
    split
    · exact .cons ⟨rfl, hab⟩ h
    · exact .cons ⟨rfl, hef.2⟩ ih

omit [LawfulBEq κ] in
theorem forall₂_distinctEntries {β : Type} {r : α → β → Prop} {es : List (κ × α)}
    {fs : List (κ × β)} (h : List.Forall₂ (fun e f => e.1 = f.1 ∧ r e.2 f.2) es fs) :
    List.Forall₂ (fun e f => e.1 = f.1 ∧ r e.2 f.2) (distinctEntries es) (distinctEntries fs) := by
  suffices hfold : ∀ acc acc', List.Forall₂ (fun e f => e.1 = f.1 ∧ r e.2 f.2) acc acc' →
      List.Forall₂ (fun e f => e.1 = f.1 ∧ r e.2 f.2)
        (es.foldl (fun acc e => putEntry e.1 e.2 acc) acc)
        (fs.foldl (fun acc e => putEntry e.1 e.2 acc) acc') from hfold [] [] .nil
  induction h with
  | nil => exact fun _ _ hacc => hacc
  | @cons e f es fs hef h ih =>
    intro acc acc' hacc
    rw [List.foldl_cons, List.foldl_cons, ← hef.1]
    exact ih _ _ (forall₂_putEntry hacc e.1 hef.2)

theorem distinctEntries_eq_nil {es : List (κ × α)} : distinctEntries es = [] ↔ es = [] := by
  constructor
  · intro h
    cases es with
    | nil => rfl
    | cons e es =>
      have hmem : e.1 ∈ (distinctEntries (e :: es)).map Prod.fst :=
        mem_keys_distinctEntries.2 (List.mem_cons_self ..)
      rw [h] at hmem
      cases hmem
  · rintro rfl
    rfl

/-- The entry that is found is there. -/
theorem mem_of_lookup? {key : κ} {value : α} {es : List (κ × α)}
    (h : lookup? key es = some value) : (key, value) ∈ es := by
  obtain ⟨e, he, rfl⟩ := Option.map_eq_some_iff.1 h
  have hkey : e.1 = key := eq_of_beq (List.find?_some (p := fun e : κ × α => e.1 == key) he)
  exact hkey ▸ List.mem_of_find?_eq_some he

/-- A key that is there is found. -/
theorem isSome_lookup? {key : κ} {value : α} {es : List (κ × α)} (h : (key, value) ∈ es) :
    (lookup? key es).isSome := by
  rw [lookup?, Option.isSome_map, List.find?_isSome]
  exact ⟨_, h, beq_self_eq_true _⟩

/-- Writing an entry changes what is found under its key only. -/
theorem lookup?_putEntry {k key : κ} {value : α} {es : List (κ × α)} :
    lookup? k (putEntry key value es) = if key == k then some value else lookup? k es := by
  induction es with
  | nil => simp only [putEntry, lookup?, List.find?_cons, List.find?_nil]; split <;> simp_all
  | cons e es ih =>
    rw [putEntry]
    by_cases he : e.1 = key
    · rw [if_pos (by simpa using he)]
      simp only [lookup?, List.find?_cons, he]
      cases key == k <;> rfl
    · rw [if_neg (by simpa using he)]
      simp only [lookup?, List.find?_cons] at ih ⊢
      by_cases hk : e.1 = k
      · subst hk
        simp [Ne.symm he]
      · rw [beq_false_of_ne hk]
        exact ih

theorem lookup?_foldl_putEntry (f : κ → Option α) (ks : List κ) {k : κ} (acc : List (κ × α)) :
    lookup? k ((ks.filterMap fun n => (f n).map fun v => (n, v)).foldl
      (fun acc e => putEntry e.1 e.2 acc) acc) =
        if k ∈ ks then (f k).or (lookup? k acc) else lookup? k acc := by
  induction ks generalizing acc with
  | nil => simp
  | cons n ks ih =>
    cases hn : f n with
    | none =>
      rw [List.filterMap_cons_none (by rw [hn]; rfl), ih]
      by_cases hk : k = n
      · subst hk
        simp [hn]
      · simp [hk]
    | some v =>
      rw [List.filterMap_cons_some (by rw [hn]; rfl), List.foldl_cons, ih, lookup?_putEntry]
      by_cases hk : k = n
      · subst hk
        simp [hn]
      · simp [hk, Ne.symm hk]

/-- What is found under keys that are written with the values that a function gives them. -/
theorem lookup?_distinctEntries_filterMap (f : κ → Option α) (ks : List κ) (k : κ) :
    lookup? k (distinctEntries (ks.filterMap fun n => (f n).map fun v => (n, v))) =
      if k ∈ ks then f k else none := by
  rw [distinctEntries, lookup?_foldl_putEntry]
  simp [lookup?]

/-- An entry whose key is there already changes no keys. -/
theorem keys_putEntry_of_mem {key : κ} {value : α} {es : List (κ × α)}
    (h : key ∈ es.map Prod.fst) : (putEntry key value es).map Prod.fst = es.map Prod.fst := by
  induction es with
  | nil => cases h
  | cons e es ih =>
    rw [putEntry]
    split
    · rfl
    · next hne =>
      have hmem : key ∈ es.map Prod.fst := by
        rw [List.map_cons, List.mem_cons] at h
        exact h.resolve_left fun heq => hne (by simp [heq])
      rw [List.map_cons, List.map_cons, ih hmem]

omit [LawfulBEq κ] in
theorem distinctEntries_concat (es : List (κ × α)) (e : κ × α) :
    distinctEntries (es ++ [e]) = putEntry e.1 e.2 (distinctEntries es) := by
  rw [distinctEntries, List.foldl_append]
  rfl

/-- **The keys stand in the order of their first occurrence.** -/
theorem keys_distinctEntries (es : List (κ × α)) :
    (distinctEntries es).map Prod.fst = (es.map Prod.fst).eraseDups := by
  induction es using List.reverseRecOn with
  | nil => rfl
  | append_singleton es e ih =>
    rw [distinctEntries_concat, List.map_append, List.eraseDups_append, ← ih]
    by_cases h : e.1 ∈ es.map Prod.fst
    · rw [keys_putEntry_of_mem (mem_keys_distinctEntries.2 h)]
      have hnone : ([e].map Prod.fst).removeAll (es.map Prod.fst) = [] := by
        simpa [List.removeAll] using h
      rw [hnone]
      simp
    · rw [putEntry_of_notMem (mt mem_keys_distinctEntries.1 h)]
      have hone : ([e].map Prod.fst).removeAll (es.map Prod.fst) = [e.1] := by
        simpa [List.removeAll] using h
      rw [hone]
      simp [List.eraseDups_cons]

/-- **Under a key its last value is found.** -/
theorem lookup?_distinctEntries (k : κ) (es : List (κ × α)) :
    lookup? k (distinctEntries es) = lookup? k es.reverse := by
  induction es using List.reverseRecOn with
  | nil => rfl
  | append_singleton es e ih =>
    rw [distinctEntries_concat, lookup?_putEntry, ih, List.reverse_append]
    simp only [lookup?, List.reverse_singleton, List.singleton_append, List.find?_cons]
    cases e.1 == k <;> rfl

end WorkflowKit
