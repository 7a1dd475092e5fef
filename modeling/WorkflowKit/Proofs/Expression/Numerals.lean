/-
# Numerals are no texts between quotes

What a numeral is read from leads to a place where a token has ended (`numeral?_spells`): its
characters are no quotes, and its last ones are no letters that stand before a quote.  This is so
of the letters of a number in base 16, too, since its sign comes first.  Where a word follows
without a blank, the digits before it make no difference (`Spells.scan_eq`).
-/

import Mathlib
import WorkflowKit.Proofs.Expression.Scan

namespace WorkflowKit
namespace Expression

variable {s : Lead} {c d : Char} {w v cs ds rest : List Char} {n : Numeral}

/-! ### Letters, digits and signs -/

/-- A letter or digit of ASCII, or an underscore. -/
def isInk (c : Char) : Bool := c.isAlphanum || c == '_'

/-- The range of these characters, which lies above the blanks and inside ASCII. -/
theorem toNat_of_isInk (h : isInk c = true) : 0x30 ≤ c.toNat ∧ c.toNat < 0x80 := by
  simp only [isInk, Char.isAlphanum, Char.isAlpha, Char.isUpper, Char.isLower, Char.isDigit,
    Bool.or_eq_true, Bool.and_eq_true, decide_eq_true_eq, beq_iff_eq, ge_iff_le,
    UInt32.le_iff_toNat_le] at h
  have hn : c.val.toNat = c.toNat := rfl
  rcases h with ((h | h) | h) | rfl
  · simp at h; omega
  · simp at h; omega
  · simp at h; omega
  · decide

/-- None of them is a blank. -/
theorem isBlank_of_isInk (h : isInk c = true) : Text.isBlank c = false := by
  have hbounds := toNat_of_isInk h
  simp only [Text.isBlank, Text.isSpace, Bool.or_eq_false_iff, Bool.and_eq_false_iff,
    decide_eq_false_iff_not, beq_eq_false_iff_ne]
  omega

/-- Each of them goes on with a name. -/
theorem extendsName_of_isInk (h : isInk c = true) : extendsName c = true := by
  simp only [isInk, Char.isAlphanum, Bool.or_eq_true] at h
  rcases h with (h | h) | h <;> simp [extendsName, opensName, h]

/-- A character that goes on with a name differs from one that does not. -/
theorem ne_of_extendsName (h : extendsName c = true) (hd : extendsName d = false) : c ≠ d := by
  rintro rfl
  rw [h] at hd
  cases hd

/-- No quote goes on with a name. -/
theorem isQuote_of_extendsName (h : extendsName c = true) : isQuote c = false := by
  simp only [isQuote, Bool.or_eq_false_iff, beq_eq_false_iff_ne]
  exact ⟨ne_of_extendsName h rfl, ne_of_extendsName h rfl⟩

namespace Lead

/-- Outside of comments a character of a name is added to the run before the place. -/
theorem next_of_extendsName (hs : s.comment = false) (hc : extendsName c = true)
    (hblank : Text.isBlank c = false) : s.next c = ⟨false, c :: s.run, s.parted⟩ := by
  have hbackslash : c ≠ '\\' := ne_of_extendsName hc rfl
  have hsharp : c ≠ '#' := ne_of_extendsName hc rfl
  simp [next, hs, hblank, hbackslash, hsharp, hc]

/-- So are several of them, in their order. -/
theorem foldl_next_of_extendsName (hs : s.comment = false)
    (hw : ∀ c ∈ w, extendsName c = true ∧ Text.isBlank c = false) :
    w.foldl next s = ⟨false, w.reverse ++ s.run, s.parted⟩ := by
  induction w generalizing s with
  | nil =>
    obtain ⟨comment, run, parted⟩ := s
    cases hs
    rfl
  | cons c w ih =>
    obtain ⟨hc, hw⟩ := List.forall_mem_cons.1 hw
    rw [List.foldl_cons, next_of_extendsName hs hc.1 hc.2, ih rfl hw, List.reverse_cons,
      List.append_assoc, List.singleton_append]

/-- In particular the letters and digits of ASCII. -/
theorem foldl_next_ink (hs : s.comment = false) (hw : w.all isInk = true) :
    w.foldl next s = ⟨false, w.reverse ++ s.run, s.parted⟩ :=
  foldl_next_of_extendsName hs fun c hc =>
    have hink := List.all_eq_true.1 hw c hc
    ⟨extendsName_of_isInk hink, isBlank_of_isInk hink⟩

/-- Letters of which one cannot stand before a quote. -/
theorem isSpoiled_foldl (hs : s.comment = false) (hw : w.all isInk = true)
    (hother : w.any (fun c => !isPrefixLetter c) = true) : (w.foldl next s).isSpoiled = true := by
  simp [isSpoiled, foldl_next_ink hs hw, hother]

/-- Letters behind one that cannot stand before a quote. -/
theorem isSpoiled_foldl_of (h : s.isSpoiled = true) (hw : w.all isInk = true) :
    (w.foldl next s).isSpoiled = true := by
  have hspoiled := h
  rw [isSpoiled, Bool.and_eq_true, Bool.not_eq_true'] at h
  simp [isSpoiled, foldl_next_ink h.1 hw, h.2]

end Lead

/-- No token ends inside a comment. -/
theorem Lead.Ended.comment_eq (h : s.Ended) : s.comment = false := by
  rcases h with rfl | h
  · rfl
  · simp only [Lead.isSpoiled, Bool.and_eq_true, Bool.not_eq_true'] at h
    exact h.1

/-- A character behind which a token ends, unless it goes on. -/
def isNumeralInk (c : Char) : Bool :=
  (isInk c && !isPrefixLetter c) || c == '.' || c == '+' || c == '-'

/-- Behind such a character a token has ended, whatever stands before it. -/
theorem Lead.ended_next (hs : s.comment = false) (hc : isNumeralInk c = true) :
    (s.next c).Ended := by
  simp only [isNumeralInk, Bool.or_eq_true, Bool.and_eq_true, Bool.not_eq_true', beq_iff_eq] at hc
  rcases hc with ((⟨hink, hother⟩ | rfl) | rfl) | rfl
  · have hspoiled := isSpoiled_foldl (w := [c]) hs (by simpa using hink) (by simpa using hother)
    exact .inr hspoiled
  all_goals exact .inl (by simp [next, hs, Text.isBlank, Text.isSpace]; rfl)

/-! ### What a numeral is read from -/

/-- What leads from any place to one where a token has ended. -/
structure Spells (w : List Char) : Prop where
  /-- No character is a quote. -/
  plain : w.all (fun c => !isQuote c) = true
  /-- The token ends, unless it goes on. -/
  ended : ∀ s : Lead, s.comment = false → (w.foldl Lead.next s).Ended

/-- No quote is among these characters. -/
theorem isQuote_of_isNumeralInk (h : isNumeralInk c = true) : isQuote c = false := by
  simp only [isNumeralInk, Bool.or_eq_true, Bool.and_eq_true, beq_iff_eq] at h
  rcases h with ((⟨hink, -⟩ | rfl) | rfl) | rfl
  · exact isQuote_of_extendsName (extendsName_of_isInk hink)
  all_goals rfl

/-- A text of such characters leads to the end of a token, unless it is empty. -/
theorem spells_of_all (hw : ∀ c ∈ w, isNumeralInk c = true) (hne : w ≠ []) : Spells w where
  plain := List.all_eq_true.2 fun c hc => by simp [isQuote_of_isNumeralInk (hw c hc)]
  ended := by
    intro s hs
    induction w generalizing s with
    | nil => exact absurd rfl hne
    | cons c w ih =>
      obtain ⟨hc, hw⟩ := List.forall_mem_cons.1 hw
      have hended := Lead.ended_next hs hc
      cases w with
      | nil => exact hended
      | cons d w => exact ih hw (List.cons_ne_nil _ _) _ hended.comment_eq

/-- **Behind a numeral nothing depends on its digits.** -/
theorem Spells.scan_eq (hw : Spells w) (hs : s.comment = false) (hrest : numeralEnds rest = true) :
    scan 0 s (w ++ rest) = scan 0 (.fresh true) rest := by
  rw [scan_plain hw.plain]
  rcases hw.ended s hs with hend | hend
  · rw [hend]
  · cases rest with
    | nil => rfl
    | cons c cs =>
      rw [numeralEnds, Bool.or_eq_true, Bool.not_eq_true'] at hrest
      rcases hrest with hc | hword
      · exact scan_ended (.inr hend) (by simpa using hc)
      · have hwords : ∀ v ∈ wordsAfterNumeral, v.all isInk = true ∧
            v.all (fun c => !isQuote c) = true ∧ v.any (fun c => !isPrefixLetter c) = true := by
          decide
        obtain ⟨v, hv, hprefix⟩ := List.any_eq_true.1 hword
        obtain ⟨hink, hplain, hother⟩ := hwords v hv
        obtain ⟨ds, hds⟩ := List.isPrefixOf_iff_prefix.1 hprefix
        rw [← hds, scan_plain hplain, scan_plain hplain]
        exact scan_alike (.inr ⟨Lead.isSpoiled_foldl_of hend hink,
          Lead.isSpoiled_foldl rfl hink hother⟩)

/-- The digits of a run, and the underscores between them, are taken from the front of the text; a
text that begins with a digit has such a run. -/
theorem digitRun?_append {isDigit : Char → Bool} (h : digitRun? isDigit cs = some (ds, rest)) :
    ∃ w, cs = w ++ rest ∧ (∀ c ∈ w, isDigit c = true ∨ c = '_') ∧
      ∀ c ∈ cs.head?, isDigit c = true → w ≠ [] := by
  fun_induction digitRun? isDigit cs generalizing ds with
  | case1 =>
    cases h
    exact ⟨[], rfl, by simp, by simp⟩
  | case2 c hc =>
    cases h
    exact ⟨[c], rfl, by simp [hc], by simp⟩
  | case3 => cases h
  | case4 c hc _ =>
    cases h
    exact ⟨[], rfl, by simp, by simp [hc]⟩
  | case5 c d cs hc ih =>
    obtain ⟨⟨es, us⟩, hes, h⟩ := Option.map_eq_some_iff.1 h
    cases h
    obtain ⟨w, hw, hall, -⟩ := ih hes
    exact ⟨c :: w, congrArg _ hw, List.forall_mem_cons.2 ⟨.inl hc, hall⟩, by simp⟩
  | case6 d cs hd _ ih =>
    obtain ⟨⟨es, us⟩, hes, h⟩ := Option.map_eq_some_iff.1 h
    cases h
    obtain ⟨w, hw, hall, -⟩ := ih hes
    refine ⟨'_' :: d :: w, by rw [hw]; rfl, ?_, by simp⟩
    exact List.forall_mem_cons.2 ⟨.inr rfl, List.forall_mem_cons.2 ⟨.inl hd, hall⟩⟩
  | case7 => cases h
  | case8 c d cs hc _ =>
    cases h
    exact ⟨[], rfl, by simp, by simp [hc]⟩

/-- Decimal digits are no letters of prefixes. -/
theorem isNumeralInk_of_isDigit (h : c.isDigit = true) : isNumeralInk c = true := by
  have hdigits : ∀ k : Fin 10, isNumeralInk (Char.ofNat (48 + k)) = true := by decide
  simp only [Char.isDigit, Bool.and_eq_true, decide_eq_true_eq, ge_iff_le,
    UInt32.le_iff_toNat_le] at h
  have hn : c.val.toNat = c.toNat := rfl
  obtain ⟨k, hk⟩ := Nat.exists_eq_add_of_le (show 48 ≤ c.toNat by simpa using h.1)
  have hlt : k < 10 := by
    have := h.2
    simp at this
    omega
  have hc := hdigits ⟨k, hlt⟩
  rwa [← hk, Char.ofNat_toNat] at hc

/-- A run of decimal digits is taken from the front, and consists of such characters. -/
theorem digitRun?_decimal (h : digitRun? Char.isDigit cs = some (ds, rest)) :
    ∃ w, cs = w ++ rest ∧ (∀ c ∈ w, isNumeralInk c = true) ∧
      ∀ c ∈ cs.head?, c.isDigit = true → w ≠ [] := by
  obtain ⟨w, hw, hall, hne⟩ := digitRun?_append h
  refine ⟨w, hw, fun c hc => ?_, hne⟩
  rcases hall c hc with hdigit | rfl
  · exact isNumeralInk_of_isDigit hdigit
  · rfl

/-- A fraction is taken from the front: its point and its digits, or nothing where no point stands.
-/
theorem fractionDigits?_append {fraction : Option (List Char)}
    (h : fractionDigits? cs = some (fraction, rest)) :
    ∃ w, cs = w ++ rest ∧ (∀ c ∈ w, isNumeralInk c = true) ∧ (cs.head? = some '.' → w ≠ []) := by
  unfold fractionDigits? at h
  split at h
  · next c cs =>
    split at h
    · obtain ⟨⟨ds, us⟩, hds, h⟩ := Option.map_eq_some_iff.1 h
      cases h
      obtain ⟨w, hw, hall, -⟩ := digitRun?_decimal hds
      exact ⟨'.' :: w, congrArg _ hw, List.forall_mem_cons.2 ⟨rfl, hall⟩, by simp⟩
    · cases h
      exact ⟨['.'], rfl, by simp; rfl, by simp⟩
  · cases h
    exact ⟨['.'], rfl, by simp; rfl, by simp⟩
  · next h₁ h₂ =>
    cases h
    refine ⟨[], rfl, by simp, fun hdot => ?_⟩
    cases cs with
    | nil => cases hdot
    | cons c cs =>
      cases hdot
      cases cs with
      | nil => exact absurd rfl h₂
      | cons d cs => exact absurd rfl (h₁ d cs)

/-- An exponent is taken from the front: its letter, its sign and its digits, or nothing. -/
theorem exponentOf?_append {exponent : Option Int}
    (h : exponentOf? cs = some (exponent, rest)) :
    ∃ w, cs = w ++ rest ∧ ∀ c ∈ w, isNumeralInk c = true := by
  unfold exponentOf? at h
  split at h
  · next e c cs =>
    split at h
    · next he =>
      have hink : isNumeralInk e = true := by rcases he with rfl | rfl <;> rfl
      split at h
      · obtain ⟨⟨ds, us⟩, hds, h⟩ := Option.map_eq_some_iff.1 h
        cases h
        obtain ⟨w, hw, hall, -⟩ := digitRun?_decimal hds
        exact ⟨e :: w, congrArg _ hw, List.forall_mem_cons.2 ⟨hink, hall⟩⟩
      · split at h
        · next hsign =>
          have hsigned : isNumeralInk c = true := by rcases hsign with rfl | rfl <;> rfl
          obtain ⟨⟨ds, us⟩, hds, h⟩ := Option.bind_eq_some_iff.1 h
          dsimp only at h
          split at h
          · split at h
            · cases h
              obtain ⟨w, hw, hall, -⟩ := digitRun?_decimal hds
              refine ⟨e :: c :: w, by rw [hw]; rfl, ?_⟩
              exact List.forall_mem_cons.2 ⟨hink, List.forall_mem_cons.2 ⟨hsigned, hall⟩⟩
            · cases h
          · cases h
        · cases h
          exact ⟨[], rfl, by simp⟩
    · cases h
      exact ⟨[], rfl, by simp⟩
  · cases h
    exact ⟨[], rfl, by simp⟩

/-- A numeral is cut off only where it ends. -/
theorem numeralEnds_of_numeralBefore? {m : Numeral} (h : numeralBefore? n cs = some (m, rest)) :
    cs = rest ∧ numeralEnds rest = true := by
  unfold numeralBefore? at h
  split at h
  · next hend =>
    cases h
    exact ⟨rfl, hend⟩
  · cases h

/-- A decimal numeral leads to the end of a token, with or without fraction and exponent. -/
theorem decimalNumeral?_spells (h : decimalNumeral? cs = some (n, rest))
    (hcs : (∃ c ∈ cs.head?, c.isDigit = true) ∨ cs.head? = some '.') :
    ∃ w, cs = w ++ rest ∧ Spells w ∧ numeralEnds rest = true := by
  obtain ⟨⟨whole, cs₁⟩, hwhole, h₁⟩ := Option.bind_eq_some_iff.1 h
  obtain ⟨⟨fraction, cs₂⟩, hfraction, h₂⟩ := Option.bind_eq_some_iff.1 h₁
  obtain ⟨⟨exponent, cs₃⟩, hexponent, hread⟩ := Option.bind_eq_some_iff.1 h₂
  clear h h₁ h₂
  dsimp only at hread hfraction hexponent
  obtain ⟨w₁, rfl, hall₁, hne₁⟩ := digitRun?_decimal hwhole
  obtain ⟨w₂, rfl, hall₂, hne₂⟩ := fractionDigits?_append hfraction
  obtain ⟨w₃, rfl, hall₃⟩ := exponentOf?_append hexponent
  have hink : ∀ c ∈ w₁ ++ w₂ ++ w₃, isNumeralInk c = true := by
    intro c hc
    rcases List.mem_append.1 hc with hc | hc
    · rcases List.mem_append.1 hc with hc | hc
      · exact hall₁ c hc
      · exact hall₂ c hc
    · exact hall₃ c hc
  have hne : w₁ ++ w₂ ++ w₃ ≠ [] := by
    rcases hcs with ⟨c, hc, hdigit⟩ | hdot
    · simp [hne₁ c hc hdigit]
    · cases w₁ with
      | nil => simp [hne₂ (by simpa using hdot)]
      | cons c w₁ => simp
  have himaginary {j : Char} {us : List Char} (hj : isNumeralInk j = true)
      (hus : numeralBefore? .imaginary us = some (n, rest)) :
      ∃ w, w₁ ++ (w₂ ++ (w₃ ++ j :: us)) = w ++ rest ∧ Spells w ∧ numeralEnds rest = true := by
    obtain ⟨rfl, hend⟩ := numeralEnds_of_numeralBefore? hus
    refine ⟨w₁ ++ w₂ ++ w₃ ++ [j], by simp, spells_of_all (fun c hc => ?_) (by simp), hend⟩
    rcases List.mem_append.1 hc with hc | hc
    · exact hink c hc
    · exact List.mem_singleton.1 hc ▸ hj
  split at hread
  · exact himaginary rfl hread
  · exact himaginary rfl hread
  · have hend : cs₃ = rest ∧ numeralEnds rest = true := by
      split at hread
      · obtain ⟨m, -, hread⟩ := Option.bind_eq_some_iff.1 hread
        exact numeralEnds_of_numeralBefore? hread
      · exact numeralEnds_of_numeralBefore? hread
    obtain ⟨rfl, hend⟩ := hend
    exact ⟨w₁ ++ w₂ ++ w₃, by simp, spells_of_all hink hne, hend⟩

/-- The digits of any base are letters and digits of ASCII. -/
theorem isInk_of_isDigitOf {base : Nat} (h : isDigitOf base c = true) : isInk c = true := by
  have hdigit : (Number.digitValue? c).isSome = true := by
    unfold isDigitOf at h
    split at h
    · next hd => rw [hd]; rfl
    · cases h
  simp only [Number.digitValue?, Char.le_def] at hdigit
  simp only [isInk, Char.isAlphanum, Char.isAlpha, Char.isUpper, Char.isLower, Char.isDigit,
    Bool.or_eq_true, Bool.and_eq_true, decide_eq_true_eq, ge_iff_le]
  split at hdigit
  · next h => exact .inl (.inr h)
  · split at hdigit
    · next h => exact .inl (.inl (.inr h))
    · split at hdigit
      · next h => exact .inl (.inl (.inl h))
      · cases hdigit

/-- The digits behind the sign of a base. -/
theorem basedNumeral?_spells {base : Nat} {x : Char}
    (h : basedNumeral? base (isDigitOf base) cs = some (n, rest)) (hx : isInk x = true) :
    ∃ w, '0' :: x :: cs = w ++ rest ∧ Spells w ∧ numeralEnds rest = true := by
  obtain ⟨⟨ds, us⟩, hds, hread⟩ := Option.bind_eq_some_iff.1 h
  obtain ⟨w, rfl, hall, -⟩ := digitRun?_append hds
  dsimp only at hread
  split at hread
  · cases hread
  · obtain ⟨rfl, hend⟩ := numeralEnds_of_numeralBefore? hread
    have hink : (x :: w).all isInk = true := by
      refine List.all_eq_true.2 (List.forall_mem_cons.2 ⟨hx, fun c hc => ?_⟩)
      rcases hall c hc with hdigit | rfl
      · exact isInk_of_isDigitOf hdigit
      · rfl
    refine ⟨'0' :: x :: w, rfl, ⟨?_, fun s hs => .inr ?_⟩, hend⟩
    · refine List.all_eq_true.2 (List.forall_mem_cons.2 ⟨rfl, fun c hc => ?_⟩)
      rw [isQuote_of_extendsName (extendsName_of_isInk (List.all_eq_true.1 hink c hc))]
      rfl
    · have hzero : (s.next '0').isSpoiled = true := Lead.isSpoiled_foldl (w := ['0']) hs rfl rfl
      exact Lead.isSpoiled_foldl_of (s := s.next '0') hzero hink

/-- **What a numeral is read from.** -/
theorem numeral?_spells (h : numeral? cs = some (n, rest))
    (hcs : (∃ c ∈ cs.head?, c.isDigit = true) ∨ cs.head? = some '.') :
    ∃ w, cs = w ++ rest ∧ Spells w ∧ numeralEnds rest = true := by
  unfold numeral? at h
  split at h
  · next c cs =>
    split at h
    · next hc => exact basedNumeral?_spells h (by rcases hc with rfl | rfl <;> rfl)
    · split at h
      · next hc => exact basedNumeral?_spells h (by rcases hc with rfl | rfl <;> rfl)
      · split at h
        · next hc => exact basedNumeral?_spells h (by rcases hc with rfl | rfl <;> rfl)
        · exact decimalNumeral?_spells h hcs
  · exact decimalNumeral?_spells h hcs

end Expression
end WorkflowKit
