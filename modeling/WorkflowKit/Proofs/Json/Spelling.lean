/-
# Numbers as they are spelled

A text is read once more, with each of its numbers as the text that it is written with
(`asWritten`).  Where the values of the numbers can be read, this reading gives the same value but
for the numbers (`read_asWritten`).
-/

import WorkflowKit.Proofs.Json.Float
import WorkflowKit.Proofs.Value.Entries

namespace WorkflowKit
namespace Json

/-- A number becomes the text that it is written with. -/
def asWritten : NumberReading := fun cs _ => .ok (.text (.ofChars cs))

/-- A value, and the same value with the numbers as they are spelled.  The texts may differ: in
place of a placeholder stands the text of a value. -/
inductive Spelled : Value → Value → Prop
  /-- A number and its spelling. -/
  | number {cs : List Char} {t : NumberToken} {v : Value} (token : numberToken? cs = some t)
    (whole : t.length = cs.length) (value : t.value = .ok v) : Spelled v (.text (.ofChars cs))
  /-- A word. -/
  | word {w : List Char} {v : Value} (mem : (w, v) ∈ wordValues) : Spelled v v
  /-- A text. -/
  | text (s s' : Text) : Spelled (.text s) (.text s')
  /-- A list. -/
  | list {vs ws : List Value} (items : List.Forall₂ Spelled vs ws) : Spelled (.list vs) (.list ws)
  /-- A mapping. -/
  | map {es fs : List (Text × Value)} (keys : es.map Prod.fst = fs.map Prod.fst)
    (values : List.Forall₂ Spelled (es.map Prod.snd) (fs.map Prod.snd)) :
    Spelled (.map es) (.map fs)

/-- Entries with the same keys and values that are spelled. -/
abbrev SpelledEntries : List (Text × Value) → List (Text × Value) → Prop :=
  List.Forall₂ fun e f => e.1 = f.1 ∧ Spelled e.2 f.2

theorem spelled_map {es fs : List (Text × Value)} (h : SpelledEntries es fs) :
    Spelled (.map es) (.map fs) := by
  refine .map ?_ ?_
  · rw [← List.forall₂_eq_eq_eq, List.forall₂_map_left_iff, List.forall₂_map_right_iff]
    exact h.imp fun _ _ hef => hef.1
  · rw [List.forall₂_map_left_iff, List.forall₂_map_right_iff]
    exact h.imp fun _ _ hef => hef.2

variable {c c' : Cursor} {v : Value}

/-- The characters of a token are as many as it counts. -/
theorem length_take_numberChars {t : NumberToken} (h : numberToken? c.numberChars = some t) :
    t.length = (c.numberChars.take t.length).length := by
  obtain ⟨es, hes, hprefix⟩ := exists_spells h
  rw [List.length_take_of_le]
  rw [hes.length]
  exact hprefix.length_le

theorem atom_asWritten (h : atom asValue c = .ok (v, c')) :
    ∃ w, atom asWritten c = .ok (w, c') ∧ Spelled v w := by
  rw [atom] at h ⊢
  split at h
  · next w v' hw =>
    cases h
    exact ⟨_, rfl, .word (List.mem_of_find?_eq_some hw)⟩
  · split at h
    · cases h
    · next t ht =>
      cases hv : asValue (c.numberChars.take t.length) t with
      | error f => rw [hv] at h; cases h
      | ok u =>
        rw [hv] at h
        cases h
        exact ⟨_, rfl, .number (numberToken?_take ht) (length_take_numberChars ht) hv⟩

mutual

theorem value_asWritten (fuel : Nat) {c c' : Cursor} {v : Value}
    (h : value asValue fuel c = .ok (v, c')) :
    ∃ w, value asWritten fuel c = .ok (w, c') ∧ Spelled v w := by
  match fuel with
  | 0 => cases h
  | fuel + 1 =>
    rw [value] at h ⊢
    split at h
    · next cs _ =>
      cases hs : textBody c.pos [] 0 (c.pos + 1) cs with
      | error e => rw [hs] at h; cases h
      | ok x =>
        rw [hs] at h
        cases h
        exact ⟨_, rfl, .text _ _⟩
    · dsimp only at h ⊢
      split at h
      · cases h
        exact ⟨_, rfl, spelled_map .nil⟩
      · exact entries_asWritten fuel .nil h
    · dsimp only at h ⊢
      split at h
      · cases h
        exact ⟨_, rfl, .list .nil⟩
      · exact items_asWritten fuel .nil h
    · exact atom_asWritten h

theorem items_asWritten (fuel : Nat) {acc acc' : List Value} {c c' : Cursor} {v : Value}
    (hacc : List.Forall₂ Spelled acc acc') (h : items asValue fuel acc c = .ok (v, c')) :
    ∃ w, items asWritten fuel acc' c = .ok (w, c') ∧ Spelled v w := by
  match fuel with
  | 0 => cases h
  | fuel + 1 =>
    rw [items] at h ⊢
    cases hv : value asValue fuel c with
    | error e => rw [hv] at h; cases h
    | ok x =>
      obtain ⟨w, hw, hspelled⟩ := value_asWritten fuel hv
      have hcons := List.Forall₂.cons hspelled hacc
      rw [hv] at h
      rw [hw]
      simp only [bind, Except.bind] at h ⊢
      split at h
      · cases h
        exact ⟨_, rfl, .list (List.rel_reverse hcons)⟩
      · exact items_asWritten fuel hcons h
      · cases h

theorem entries_asWritten (fuel : Nat) {acc acc' : List (Text × Value)} {c c' : Cursor}
    {v : Value} (hacc : SpelledEntries acc acc') (h : entries asValue fuel acc c = .ok (v, c')) :
    ∃ w, entries asWritten fuel acc' c = .ok (w, c') ∧ Spelled v w := by
  match fuel with
  | 0 => cases h
  | fuel + 1 =>
    rw [entries] at h ⊢
    split at h
    · simp only [bind, Except.bind] at h ⊢
      split at h
      · cases h
      · next x _ =>
        split at h
        · split at h
          · cases h
          · next y hy =>
            obtain ⟨w, hw, hspelled⟩ := value_asWritten fuel hy
            have hcons : SpelledEntries ((x.1, y.1) :: acc) ((x.1, w) :: acc') :=
              .cons ⟨rfl, hspelled⟩ hacc
            rw [hw]
            dsimp only
            split at h
            · cases h
              exact ⟨_, rfl, spelled_map (forall₂_distinctEntries (List.rel_reverse hcons))⟩
            · exact entries_asWritten fuel hcons h
            · cases h
        · cases h
    · cases h

end

/-- **The two readings of a text give the same value but for the numbers.** -/
theorem read_asWritten {s : Text} (h : read s = .ok v) :
    ∃ w, read s asWritten = .ok w ∧ Spelled v w := by
  rw [read.eq_def] at h ⊢
  split at h
  · cases h
  · simp only [bind, Except.bind] at h ⊢
    split at h
    · cases h
    · next x hx =>
      obtain ⟨w, hw, hspelled⟩ := value_asWritten _ hx
      rw [hw]
      dsimp only
      split at h
      · next hempty =>
        cases h
        exact ⟨w, if_pos hempty, hspelled⟩
      · cases h

end Json
end WorkflowKit
