/-
# Decimal text and back

The decimal text of a number is read as the number (`digitsValue_natText`), and a number that may
be written has a text that may be read (`readDigits_natText`).
-/

import Mathlib.Algebra.Group.Nat.Defs
import Mathlib.Data.List.Induction
import WorkflowKit.Number.Decimal

namespace WorkflowKit
namespace Number

theorem digitValue?_of_isDigit {c : Char} (h : c.isDigit = true) :
    digitValue? c = some (c.toNat - '0'.toNat) := by
  simp only [Char.isDigit, Bool.and_eq_true, decide_eq_true_eq] at h
  rw [digitValue?, if_pos (by exact ⟨h.1, h.2⟩)]

theorem isDigit_of_mem_natText {n : Nat} {c : Char} (h : c ∈ natText n) : c.isDigit = true :=
  Nat.isDigit_of_mem_toDigits (by decide) (by decide) h

theorem natText_ne_nil (n : Nat) : natText n ≠ [] := Nat.toDigits_ne_nil

theorem digitsValue_append (base : Nat) (cs ds : List Char) :
    digitsValue base (cs ++ ds) = ds.foldl (fun n c => match digitValue? c with
      | some d => base * n + d
      | none => n) (digitsValue base cs) :=
  List.foldl_append ..

/-- Reading decimal digits is what the library does with them. -/
theorem digitsValue_eq_ofDigitChars {cs : List Char} (h : ∀ c ∈ cs, c.isDigit = true) :
    digitsValue 10 cs = Nat.ofDigitChars 10 cs 0 := by
  induction cs using List.reverseRecOn with
  | nil => rfl
  | append_singleton cs c ih =>
    rw [digitsValue_append, Nat.ofDigitChars_append,
      ih fun d hd => h d (List.mem_append_left _ hd), Nat.ofDigitChars_cons, Nat.ofDigitChars_nil,
      List.foldl_cons, List.foldl_nil, digitValue?_of_isDigit (h c (by simp))]

/-- **The decimal text of a number is read as the number.** -/
theorem digitsValue_natText (n : Nat) : digitsValue 10 (natText n) = n := by
  rw [digitsValue_eq_ofDigitChars fun c hc => isDigit_of_mem_natText hc]
  exact Nat.ofDigitChars_ten_toDigits

theorem digitsValue_append_singleton (cs : List Char) {d : Char} (h : d.isDigit = true) :
    digitsValue 10 (cs ++ [d]) = 10 * digitsValue 10 cs + (d.toNat - '0'.toNat) := by
  rw [digitsValue_append, List.foldl_cons, List.foldl_nil, digitValue?_of_isDigit h]

/-- Digits that follow others stand for less. -/
theorem digitsValue_append_digits (cs : List Char) {ds : List Char}
    (h : ∀ d ∈ ds, d.isDigit = true) :
    digitsValue 10 (cs ++ ds) = digitsValue 10 cs * 10 ^ ds.length + digitsValue 10 ds := by
  induction ds using List.reverseRecOn with
  | nil => simp [digitsValue]
  | append_singleton ds d ih =>
    have hd := h d (by simp)
    rw [← List.append_assoc, digitsValue_append_singleton _ hd, digitsValue_append_singleton _ hd,
      ih fun c hc => h c (List.mem_append_left _ hc), List.length_append, List.length_singleton,
      Nat.pow_succ, Nat.mul_add, Nat.mul_left_comm, Nat.mul_comm 10 (10 ^ _), Nat.add_assoc]

/-- The value of digits is bounded by their number. -/
theorem digitsValue_lt {ds : List Char} (h : ∀ d ∈ ds, d.isDigit = true) :
    digitsValue 10 ds < 10 ^ ds.length := by
  induction ds using List.reverseRecOn with
  | nil => exact Nat.one_pos
  | append_singleton ds d ih =>
    have hd := h d (by simp)
    have hle : d.toNat ≤ '9'.toNat := by
      simp only [Char.isDigit, Bool.and_eq_true, decide_eq_true_eq] at hd
      exact hd.2
    have hlt := ih fun c hc => h c (List.mem_append_left _ hc)
    rw [digitsValue_append_singleton _ hd, List.length_append, List.length_singleton, Nat.pow_succ]
    simp only [Char.reduceToNat] at hle ⊢
    omega

/-- Zeros before digits count for nothing. -/
theorem digitsValue_zeros_append (n : Nat) (ds : List Char) :
    digitsValue 10 (List.replicate n '0' ++ ds) = digitsValue 10 ds := by
  induction n with
  | zero => rfl
  | succ n ih =>
    rw [List.replicate_succ, List.cons_append]
    exact ih

/-- Zeros after digits are factors of ten. -/
theorem digitsValue_append_zeros (ds : List Char) (n : Nat) :
    digitsValue 10 (ds ++ List.replicate n '0') = digitsValue 10 ds * 10 ^ n := by
  have hzeros : digitsValue 10 (List.replicate n '0') = 0 := by
    simpa [digitsValue] using digitsValue_zeros_append n []
  rw [digitsValue_append_digits, hzeros, List.length_replicate, Nat.add_zero]
  exact fun d hd => (List.mem_replicate.1 hd).2 ▸ rfl

/-- A number below the limit has a text within the limit. -/
theorem length_natText_le {n : Int} (h : exceedsDigitLimit n = false) :
    (natText n.natAbs).length ≤ digitLimit := by
  rw [exceedsDigitLimit, decide_eq_false_iff_not, Nat.not_le, Nat.pow_eq] at h
  have hpos : 0 < digitLimit := by decide
  -- The limit is a variable from here on, so that its power is not computed.
  generalize digitLimit = k at h hpos ⊢
  exact (Nat.length_toDigits_le_iff (by decide) hpos).2 h

/-- **What may be written may be read.** -/
theorem readDigits_natText {n : Int} (h : exceedsDigitLimit n = false) :
    readDigits (natText n.natAbs) = .ok n.natAbs := by
  rw [readDigits, if_neg (Nat.not_lt.2 (length_natText_le h)), digitsValue_natText]

/-- Only the text of zero begins with a zero. -/
theorem natText_eq_of_head_zero {n : Nat} {cs : List Char} (h : natText n = '0' :: cs) :
    cs = [] := by
  induction n using Nat.strongRecOn generalizing cs with
  | ind n ih =>
    rw [natText, Nat.toDigits_eq_if (by decide)] at h
    split at h
    · exact (List.cons.inj h).2.symm
    · next hn =>
      have hne : natText (n / 10) ≠ [] := natText_ne_nil _
      obtain ⟨d, ds, hd⟩ := List.exists_cons_of_ne_nil hne
      rw [natText] at hd
      rw [hd, List.cons_append, List.cons.injEq] at h
      obtain ⟨rfl, -⟩ := h
      have hds := ih (n / 10) (by omega) hd
      subst hds
      have : digitsValue 10 (natText (n / 10)) = n / 10 := digitsValue_natText _
      rw [natText, hd] at this
      have : (0 : Nat) = n / 10 := this
      omega

end Number
end WorkflowKit
