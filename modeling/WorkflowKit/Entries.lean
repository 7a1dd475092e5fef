/-
# Entries by keys

Mappings are lists of entries in the order in which they were written.  Writing an entry under a key
that is there gives the key a new value; so the keys of what is written entry by entry are distinct
(`nodup_distinctEntries`).
-/

namespace WorkflowKit

/-- The entry of a key. -/
def lookup? {κ α : Type} [BEq κ] (key : κ) (entries : List (κ × α)) : Option α :=
  (entries.find? fun e => e.1 == key).map Prod.snd

/-- Writes an entry: a key that is there keeps its place and gets the new value, a new key comes
last. -/
def putEntry {κ α : Type} [BEq κ] (key : κ) (value : α) : List (κ × α) → List (κ × α)
  | [] => [(key, value)]
  | (k, v) :: rest => if k == key then (k, value) :: rest else (k, v) :: putEntry key value rest

/-- An entry that is there after writing has the new value or was there before. -/
theorem eq_or_mem_of_mem_putEntry {κ α : Type} [BEq κ] {key : κ} {value : α} {e : κ × α}
    {es : List (κ × α)} (h : e ∈ putEntry key value es) : e.2 = value ∨ e ∈ es := by
  induction es with
  | nil => simp only [putEntry, List.mem_singleton] at h; exact .inl (h ▸ rfl)
  | cons f es ih =>
    simp only [putEntry] at h
    split at h <;> rcases List.mem_cons.1 h with rfl | h
    · exact .inl rfl
    · exact .inr (List.mem_cons_of_mem _ h)
    · exact .inr (List.mem_cons_self ..)
    · exact (ih h).imp_right (List.mem_cons_of_mem _)

/-- The entries in order of first occurrence of their keys, each with the last value. -/
def distinctEntries {κ α : Type} [BEq κ] (entries : List (κ × α)) : List (κ × α) :=
  entries.foldl (fun acc e => putEntry e.1 e.2 acc) []

variable {κ α : Type} [BEq κ] [LawfulBEq κ]

/-- Writing an entry adds its key and no other. -/
theorem mem_keys_putEntry {key k : κ} {value : α} {es : List (κ × α)} :
    k ∈ (putEntry key value es).map Prod.fst ↔ k = key ∨ k ∈ es.map Prod.fst := by
  induction es with
  | nil => simp [putEntry]
  | cons e es ih =>
    rw [putEntry]
    split
    · next h => simp [eq_of_beq h]
    · rw [List.map_cons, List.mem_cons, ih, List.map_cons, List.mem_cons]
      exact or_left_comm

/-- Writing an entry keeps keys distinct. -/
theorem nodup_putEntry {key : κ} {value : α} {es : List (κ × α)}
    (h : (es.map Prod.fst).Nodup) : ((putEntry key value es).map Prod.fst).Nodup := by
  induction es with
  | nil => simp [putEntry]
  | cons e es ih =>
    rw [List.map_cons, List.nodup_cons] at h
    rw [putEntry]
    split
    · exact List.nodup_cons.2 h
    · next hne =>
      rw [List.map_cons, List.nodup_cons, mem_keys_putEntry]
      refine ⟨?_, ih h.2⟩
      rintro (rfl | hmem)
      · exact hne (beq_self_eq_true _)
      · exact h.1 hmem

theorem nodup_foldl_putEntry {acc es : List (κ × α)} (h : (acc.map Prod.fst).Nodup) :
    ((es.foldl (fun acc e => putEntry e.1 e.2 acc) acc).map Prod.fst).Nodup := by
  induction es generalizing acc with
  | nil => exact h
  | cons e es ih => exact ih (nodup_putEntry h)

/-- **The keys that are kept are distinct.** -/
theorem nodup_distinctEntries (es : List (κ × α)) :
    ((distinctEntries es).map Prod.fst).Nodup :=
  nodup_foldl_putEntry .nil

end WorkflowKit
