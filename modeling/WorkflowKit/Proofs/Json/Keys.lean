/-
# The keys of JSON that is read

In whatever a text is read as, the keys of each mapping are distinct (`read_keysAll`): the reader
keeps one entry of each key.
-/

import WorkflowKit.Json.Reader
import WorkflowKit.Proofs.Value.Entries

namespace WorkflowKit
namespace Value

mutual

/-- Whether the keys of each mapping in a value have a property. -/
def KeysAll (p : List Text → Prop) : Value → Prop
  | list items => ItemsKeysAll p items
  | map entries => p (entries.map Prod.fst) ∧ EntriesKeysAll p entries
  | _ => True

/-- The same for the items of a list. -/
def ItemsKeysAll (p : List Text → Prop) : List Value → Prop
  | [] => True
  | v :: vs => v.KeysAll p ∧ ItemsKeysAll p vs

/-- The same for the entries of a mapping. -/
def EntriesKeysAll (p : List Text → Prop) : List (Text × Value) → Prop
  | [] => True
  | (_, v) :: es => v.KeysAll p ∧ EntriesKeysAll p es

end

variable {p : List Text → Prop}

theorem itemsKeysAll_iff {vs : List Value} : ItemsKeysAll p vs ↔ ∀ v ∈ vs, v.KeysAll p := by
  induction vs with
  | nil => simp [ItemsKeysAll]
  | cons v vs ih => simp [ItemsKeysAll, ih]

theorem entriesKeysAll_iff {es : List (Text × Value)} :
    EntriesKeysAll p es ↔ ∀ e ∈ es, e.2.KeysAll p := by
  induction es with
  | nil => simp [EntriesKeysAll]
  | cons e es ih => simp [EntriesKeysAll, ih]

end Value

namespace Json

open Value (itemsKeysAll_iff entriesKeysAll_iff)

theorem wordValues_keysAll {p : List Text → Prop} : ∀ e ∈ wordValues, e.2.KeysAll p := by
  simp [wordValues, Value.KeysAll]

theorem numberValue_keysAll {p : List Text → Prop} {t : NumberToken} {v : Value}
    (h : t.value = .ok v) : v.KeysAll p := by
  rw [NumberToken.value] at h
  split at h
  · split at h
    · cases h
      trivial
    · cases h
  · cases h
    trivial

/-- A word or a number holds no mapping. -/
theorem atom_keysAll {p : List Text → Prop} {c c' : Cursor} {v : Value}
    (h : atom asValue c = .ok (v, c')) : v.KeysAll p := by
  rw [atom] at h
  split at h
  · next w v' hw =>
    cases h
    exact wordValues_keysAll _ (List.mem_of_find?_eq_some hw)
  · split at h
    · cases h
    · next t _ =>
      cases ht : asValue (c.numberChars.take t.length) t with
      | error e => rw [ht] at h; cases h
      | ok u =>
        rw [ht] at h
        cases h
        exact numberValue_keysAll ht

mutual

theorem value_keysAll (fuel : Nat) {c c' : Cursor} {v : Value}
    (h : value asValue fuel c = .ok (v, c')) : v.KeysAll List.Nodup := by
  match fuel with
  | 0 => cases h
  | fuel + 1 =>
    rw [value] at h
    split at h
    · next cs _ =>
      cases hs : textBody c.pos [] 0 (c.pos + 1) cs with
      | error e => rw [hs] at h; cases h
      | ok x =>
        rw [hs] at h
        cases h
        trivial
    · dsimp only at h
      split at h
      · cases h
        exact ⟨.nil, trivial⟩
      · exact entries_keysAll fuel (by simp) h
    · dsimp only at h
      split at h
      · cases h
        trivial
      · exact items_keysAll fuel (by simp) h
    · exact atom_keysAll h

theorem items_keysAll (fuel : Nat) {acc : List Value} {c c' : Cursor} {v : Value}
    (hacc : ∀ u ∈ acc, u.KeysAll List.Nodup) (h : items asValue fuel acc c = .ok (v, c')) :
    v.KeysAll List.Nodup := by
  match fuel with
  | 0 => cases h
  | fuel + 1 =>
    rw [items] at h
    cases hv : value asValue fuel c with
    | error e => rw [hv] at h; cases h
    | ok x =>
      have hcons : ∀ u ∈ x.1 :: acc, u.KeysAll List.Nodup :=
        List.forall_mem_cons.2 ⟨value_keysAll fuel hv, hacc⟩
      rw [hv] at h
      simp only [bind, Except.bind] at h
      split at h
      · cases h
        exact itemsKeysAll_iff.2 fun u hu => hcons u (List.mem_reverse.1 hu)
      · exact items_keysAll fuel hcons h
      · cases h

theorem entries_keysAll (fuel : Nat) {acc : List (Text × Value)} {c c' : Cursor} {v : Value}
    (hacc : ∀ e ∈ acc, e.2.KeysAll List.Nodup) (h : entries asValue fuel acc c = .ok (v, c')) :
    v.KeysAll List.Nodup := by
  match fuel with
  | 0 => cases h
  | fuel + 1 =>
    rw [entries] at h
    split at h
    · next cs _ =>
      simp only [bind, Except.bind] at h
      split at h
      · cases h
      · next x hx =>
        split at h
        · next cs' _ =>
          split at h
          · cases h
          · next y hy =>
            have hcons : ∀ e ∈ (x.1, y.1) :: acc, e.2.KeysAll List.Nodup :=
              List.forall_mem_cons.2 ⟨value_keysAll fuel hy, hacc⟩
            split at h
            · cases h
              refine ⟨nodup_distinctEntries _, entriesKeysAll_iff.2 ?_⟩
              exact forall_mem_distinctEntries fun e he => hcons e (List.mem_reverse.1 he)
            · exact entries_keysAll fuel hcons h
            · cases h
        · cases h
    · cases h

end

/-- **The keys of each mapping that is read are distinct.** -/
theorem read_keysAll {t : Text} {v : Value} (h : read t = .ok v) : v.KeysAll List.Nodup := by
  rw [read.eq_def] at h
  split at h
  · cases h
  · simp only [bind, Except.bind] at h
    split at h
    · cases h
    · next x hx =>
      split at h
      · cases h
        exact value_keysAll _ hx
      · cases h

end Json
end WorkflowKit
