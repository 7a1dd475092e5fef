/-
# Escapes between double quotes

The escape of a code point is read as the code point (`quotedEscape_escaped`): the letter of an
escape names its character, and the digits of an escape write its number.  A line end after a
backslash is read as nothing (`quotedEscape_lineDown`).
-/

import Mathlib.Algebra.Group.Nat.Defs
import WorkflowKit.Proofs.Number.Decimal
import WorkflowKit.Proofs.Yaml.Quoted

namespace WorkflowKit
namespace Yaml

/-! ### Digits -/

theorem digitValue?_upper :
    ∀ d < 16, Number.digitValue? (Nat.digitChar d).toUpper = some d := by
  decide

theorem digitsValue_upperDigits (n : Nat) :
    Number.digitsValue 16 ((Nat.toDigits 16 n).map Char.toUpper) = n ∧
      ∀ c ∈ (Nat.toDigits 16 n).map Char.toUpper, isHexDigit c = true := by
  induction n using Nat.strongRecOn with
  | ind n ih =>
    have hdigit {d : Nat} (hd : d < 16) : isHexDigit (Nat.digitChar d).toUpper = true := by
      simp [isHexDigit, digitValue?_upper d hd, hd]
    rw [Nat.toDigits_eq_if (by decide)]
    split
    · next hn =>
      refine ⟨?_, by simpa using hdigit hn⟩
      rw [List.map_singleton, Number.digitsValue, List.foldl_cons, List.foldl_nil,
        digitValue?_upper n hn]
      simp
    · next hn =>
      obtain ⟨hvalue, hhex⟩ := ih (n / 16) (by omega)
      have hmod : n % 16 < 16 := Nat.mod_lt _ (by decide)
      refine ⟨?_, ?_⟩
      · rw [List.map_append, List.map_singleton, Number.digitsValue_append, hvalue,
          List.foldl_cons, List.foldl_nil, digitValue?_upper _ hmod]
        exact Nat.div_add_mod n 16
      · rw [List.map_append, List.forall_mem_append]
        exact ⟨hhex, by simpa using hdigit hmod⟩

theorem digitsValue_zeros (k : Nat) (cs : List Char) :
    Number.digitsValue 16 (List.replicate k '0' ++ cs) = Number.digitsValue 16 cs := by
  induction k with
  | zero => rfl
  | succ k ih => exact ih

/-- The digits of a number write the number. -/
theorem upperHex_spec {w n : Nat} (hw : 0 < w) (hn : n < 16 ^ w) :
    (Page.upperHex w n).length = w ∧ (∀ c ∈ Page.upperHex w n, isHexDigit c = true) ∧
      Number.digitsValue 16 (Page.upperHex w n) = n := by
  obtain ⟨hvalue, hhex⟩ := digitsValue_upperDigits n
  have hlength := (Nat.length_toDigits_le_iff (b := 16) (n := n) (by decide) hw).2 hn
  have hzeros (k : Nat) : (List.replicate k '0').map Char.toUpper = List.replicate k '0' := by
    rw [List.map_replicate]
    rfl
  rw [Page.upperHex, Text.hexText, List.map_append, hzeros]
  refine ⟨?_, ?_, ?_⟩
  · rw [List.length_append, List.length_replicate, List.length_map]
    omega
  · rw [List.forall_mem_append]
    refine ⟨fun c hc => ?_, hhex⟩
    rw [List.eq_of_mem_replicate hc]
    decide
  · rw [digitsValue_zeros, hvalue]

/-! ### Escapes -/

theorem number_lt (q : CodePoint) : q.number < 0x110000 := by
  cases q with
  | char c =>
    rw [CodePoint.number]
    rcases c.valid with h | h
    · exact Nat.lt_trans h (by decide)
    · exact h.2
  | half n =>
    rw [CodePoint.number]
    omega

theorem ofNumber_number (q : CodePoint) : CodePoint.ofNumber q.number = q := by
  cases q with
  | char c =>
    have hc : ¬ (0xd800 ≤ c.toNat ∧ c.toNat < 0xe000) := by
      rcases c.valid with h | h
      · exact fun hn => absurd hn.1 (Nat.not_le.2 h)
      · exact fun hn => absurd hn.2 (Nat.not_lt.2 h.1)
    rw [CodePoint.number, CodePoint.ofNumber, dif_neg hc, Char.ofNat_toNat]
  | half n =>
    rw [CodePoint.number, CodePoint.ofNumber, dif_pos (by omega)]
    simp

theorem numberedPoint_number (q : CodePoint) : numberedPoint q.number = .ok q := by
  have h := number_lt q
  rw [numberedPoint, if_neg (by omega), if_neg (by omega), ofNumber_number]

variable {c : Cursor} {cs : List Char} {ch : Char}

/-- An escape by number. -/
theorem quotedEscape_hex {letter : Char} {w : Nat} (hw : 0 < w)
    (hletter : escapeChar? letter = none) (hdigits : escapeDigits? letter = some w)
    (q : CodePoint) (hq : q.number < 16 ^ w)
    (hrest : c.rest = letter :: (Page.upperHex w q.number ++ cs)) (fuel : Nat) :
    quotedEscape fuel c = .ok ([q], c.skip (w + 1)) := by
  obtain ⟨hlength, hhex, hvalue⟩ := upperHex_spec hw hq
  have hnext : c.next.rest.take w = Page.upperHex w q.number := by
    rw [Cursor.next_rest hrest, List.take_left' hlength]
  rw [quotedEscape]
  simp only [Cursor.peek_of_rest hrest, hletter, hdigits, hnext]
  rw [if_pos ⟨hlength, by simpa using hhex⟩, hvalue, numberedPoint_number]
  rfl

/-- The letter of an escape names the character. -/
theorem escapeChar?_escapeLetter? {d l : Char} (h : Page.escapeLetter? d = some l) :
    escapeChar? l = some d ∧ isInline l = true := by
  unfold Page.escapeLetter? at h
  split at h <;> cases h <;> exact ⟨rfl, rfl⟩

theorem isInline_of_isHexDigit {d : Char} (h : isHexDigit d = true) : isInline d = true := by
  rw [isInline, Bool.and_eq_true, Bool.not_eq_true', bne_iff_ne]
  constructor
  · rw [isBreak]
    simp only [Bool.or_eq_false_iff, beq_eq_false_iff_ne]
    refine ⟨⟨⟨⟨?_, ?_⟩, ?_⟩, ?_⟩, ?_⟩ <;> rintro rfl <;> exact absurd h (by decide)
  · rintro rfl
    exact absurd h (by decide)

namespace Page

variable {p e : Page} {n : Nat}

theorem isInline_escaped (q : CodePoint) : ∀ c ∈ escaped q, isInline c = true := by
  have hhex {w : Nat} {letter : Char} (hw : 0 < w) (hq : q.number < 16 ^ w)
      (hletter : isInline letter = true) :
      ∀ c ∈ '\\' :: letter :: upperHex w q.number, isInline c = true := by
    simp only [List.forall_mem_cons]
    exact ⟨rfl, hletter, fun c hc => isInline_of_isHexDigit ((upperHex_spec hw hq).2.1 c hc)⟩
  rw [escaped]
  split
  · next l h =>
    obtain ⟨d, -, hl⟩ := Option.bind_eq_some_iff.1 h
    simp only [List.forall_mem_cons, List.not_mem_nil, false_imp_iff, implies_true, and_true]
    exact ⟨rfl, (escapeChar?_escapeLetter? hl).2⟩
  · split
    · exact hhex (by decide) (by omega) rfl
    · split
      · exact hhex (by decide) (by omega) rfl
      · exact hhex (by decide) (Nat.lt_trans (number_lt q) (by decide)) rfl

/-- **The escape of a code point is read as the code point.** -/
theorem quotedEscape_escaped (q : CodePoint) (h : p.put (escaped q) ≤ e) :
    ∃ cs, (e.place p).rest = '\\' :: cs ∧ ∀ fuel, quotedEscape fuel (e.place p).next =
      .ok ([q], e.place (p.put (escaped q))) := by
  have hskip := place_skip_put h (isInline_escaped q)
  have hrest : (e.place p).rest = escaped q ++ _ := rest_put h
  rw [← hskip]
  clear hskip
  rw [escaped] at hrest ⊢
  -- Either the code point has a letter of its own, or it is written with 2, 4 or 8 hexadecimal
  -- digits, the fewest that hold its number.
  split at hrest
  · next l hl =>
    obtain ⟨d, hd, hl⟩ := Option.bind_eq_some_iff.1 hl
    refine ⟨_, hrest, fun fuel => ?_⟩
    have hq : q = .char d := by
      cases q with
      | char c => rw [Option.some.inj hd]
      | half n => cases hd
    rw [quotedEscape]
    simp only [Cursor.peek_of_rest (Cursor.next_rest hrest), (escapeChar?_escapeLetter? hl).1, hq]
    rfl
  · split at hrest
    · have hlength := (upperHex_spec (w := 2) (n := q.number) (by decide) (by omega)).1
      refine ⟨_, hrest, fun fuel => ?_⟩
      rw [if_pos ‹_›, quotedEscape_hex (w := 2) (by decide) rfl rfl q (by omega)
        (Cursor.next_rest hrest), List.length_cons, List.length_cons, hlength]
      rfl
    · split at hrest
      · have hlength := (upperHex_spec (w := 4) (n := q.number) (by decide) (by omega)).1
        refine ⟨_, hrest, fun fuel => ?_⟩
        rw [if_neg ‹_›, if_pos ‹_›, quotedEscape_hex (w := 4) (by decide) rfl rfl q (by omega)
          (Cursor.next_rest hrest), List.length_cons, List.length_cons, hlength]
        rfl
      · have hq : q.number < 16 ^ 8 := Nat.lt_trans (number_lt q) (by decide)
        have hlength := (upperHex_spec (w := 8) (by decide) hq).1
        refine ⟨_, hrest, fun fuel => ?_⟩
        rw [if_neg ‹_›, if_neg ‹_›, quotedEscape_hex (w := 8) (by decide) rfl rfl q hq
          (Cursor.next_rest hrest), List.length_cons, List.length_cons, hlength]
        rfl

/-- The page behind a backslash at the end of a line and an indentation. -/
def lineDown (n : Nat) (p : Page) : Page := (p.put ['\\']).linesDown ['\n'] n

/-- **A line end after a backslash is read as nothing.** -/
theorem quotedEscape_lineDown (hn : 0 < n) (h : p.lineDown n ≤ e)
    (hnext : ∀ ch ∈ (e.rest (p.lineDown n)).head?, endsToken ch = false) :
    ∃ cs, (e.place p).rest = '\\' :: cs ∧ ∀ fuel, (e.place p).next.left < fuel →
      quotedEscape fuel (e.place p).next = .ok ([], e.place (p.lineDown n)) := by
  have hput : p.put ['\\'] ≤ e := (le_linesDown ..).trans h
  have hrest : (e.place (p.put ['\\'])).rest = '\n' :: _ := rest_linesDown h
  have hend : (p.put ['\\']).endLine '\n' ≤ e := (le_put ..).trans h
  refine ⟨_, rest_put hput, fun fuel hfuel => ?_⟩
  have hleft : 0 < fuel := by omega
  rw [place_next_put hput rfl, quotedEscape]
  have hline := Cursor.lineBreak_of_rest hrest rfl
  rw [place_next_endLine hend rfl] at hline
  simp only [Cursor.peek_of_rest hrest, hline]
  rw [show escapeChar? '\n' = none from rfl, show escapeDigits? '\n' = none from rfl]
  dsimp only
  rw [if_pos (by decide)]
  have hnone : ∀ b ∈ ([] : List Char), isWrittenBreak b = true := by simp
  exact bind_eq_ok.2 ⟨_, quotedBreaks_place hn hnone h hnext fuel hleft, rfl⟩

end Page
end Yaml
end WorkflowKit
