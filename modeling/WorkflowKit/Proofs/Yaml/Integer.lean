/-
# Integers in YAML

The decimal text of an integer stands without quotes (`allowsPlain_intText`), has the form of an
integer (`plainTag_intText`), and is read as the integer (`integerValue_intText`).
-/

import Mathlib.Data.List.TakeWhile
import WorkflowKit.Proofs.Number.Decimal
import WorkflowKit.Proofs.Value.Text
import WorkflowKit.Yaml.Scalar
import WorkflowKit.Yaml.Style

namespace WorkflowKit
namespace Yaml

variable {c : Char} {cs ds : List Char} {n : Int}

/-! ### Digits -/

/-- The range of the digits in ASCII. -/
theorem toNat_of_isDigit (h : c.isDigit = true) : 48 ≤ c.toNat ∧ c.toNat ≤ 57 := by
  simp only [Char.isDigit, Bool.and_eq_true, decide_eq_true_eq] at h
  exact h

/-- A digit differs from what is none. -/
theorem ne_of_isDigit (h : c.isDigit = true) {d : Char} (hd : d.isDigit = false) : c ≠ d := by
  rintro rfl
  exact Bool.false_ne_true (hd.symm.trans h)

/-- The text of an integer is its digits, or a minus sign and its digits. -/
theorem intText_cases (n : Int) :
    0 ≤ n ∧ Number.intText n = Number.natText n.natAbs ∨
      n < 0 ∧ Number.intText n = '-' :: Number.natText n.natAbs := by
  rw [Number.intText]
  split
  · next hn => exact .inr ⟨hn, rfl⟩
  · next hn => exact .inl ⟨Int.not_lt.1 hn, rfl⟩

/-- An integer is written with digits and perhaps a minus sign. -/
theorem of_mem_intText (h : c ∈ Number.intText n) : c = '-' ∨ c.isDigit = true := by
  rcases intText_cases n with ⟨-, htext⟩ | ⟨-, htext⟩ <;> rw [htext] at h
  · exact .inr (Number.isDigit_of_mem_natText h)
  · exact (List.mem_cons.1 h).imp_right Number.isDigit_of_mem_natText

/-- So no other character stands in it. -/
theorem ne_of_mem_intText (h : c ∈ Number.intText n) {d : Char} (hd : d.isDigit = false)
    (hminus : d ≠ '-') : c ≠ d := by
  rcases of_mem_intText h with rfl | hc
  · exact hminus.symm
  · exact ne_of_isDigit hc hd

/-- An integer is not written as the empty text. -/
theorem intText_ne_nil (n : Int) : Number.intText n ≠ [] := by
  rcases intText_cases n with ⟨-, htext⟩ | ⟨-, htext⟩ <;> rw [htext]
  · exact Number.natText_ne_nil _
  · simp

/-! ### Style -/

/-- If no two characters of a text are such a pair, no two neighbours are. -/
theorem hasPair_eq_false {p : Char → Char → Bool} (h : ∀ a ∈ cs, ∀ b ∈ cs, p a b = false) :
    hasPair p cs = false := by
  induction cs with
  | nil => rfl
  | cons a cs ih =>
    cases cs with
    | nil => rfl
    | cons b cs =>
      rw [hasPair, h a (by simp) b (by simp), Bool.false_or]
      exact ih fun c hc d hd => h c (List.mem_cons_of_mem _ hc) d (List.mem_cons_of_mem _ hd)

/-- The characters of an integer break no line, are not special and end no token. -/
theorem plain_of_mem_intText (h : c ∈ Number.intText n) :
    isWrittenBreak c = false ∧ isSpecial c = false ∧ endsToken c = false := by
  have hne {d : Char} (hd : d.isDigit = false) (hminus : d ≠ '-') := ne_of_mem_intText h hd hminus
  have h1 := hne (d := '\n') (by decide) (by decide)
  have h2 := hne (d := '\x85') (by decide) (by decide)
  have h3 := hne (d := '\u2028') (by decide) (by decide)
  have h4 := hne (d := '\u2029') (by decide) (by decide)
  have h5 := hne (d := '\t') (by decide) (by decide)
  have h6 := hne (d := ' ') (by decide) (by decide)
  have h7 := hne (d := '\r') (by decide) (by decide)
  have h8 := hne (d := endMark) (by decide) (by decide)
  refine ⟨by simp [isWrittenBreak, h1, h2, h3, h4], ?_,
    by simp [endsToken, endsWord, endsLine, isBreak, h1, h2, h3, h4, h5, h6, h7, h8]⟩
  have hrange : 0x20 ≤ c.toNat ∧ c.toNat ≤ 0x7e := by
    rcases of_mem_intText h with rfl | hc
    · decide
    · have := toNat_of_isDigit hc
      omega
  simp [isSpecial, hrange]

/-- **An integer stands without quotes.** -/
theorem allowsPlain_intText (n : Int) : allowsPlain (Number.intText n) = true := by
  have hne {d : Char} (hd : d.isDigit = false) (hminus : d ≠ '-') : d ∉ Number.intText n :=
    fun hmem => ne_of_mem_intText hmem hd hminus rfl
  have hhead {d : Char} (hd : d.isDigit = false) (hminus : d ≠ '-') :
      (Number.intText n).head? ≠ some d := fun h => hne hd hminus (List.mem_of_mem_head? h)
  have hlast {d : Char} (hd : d.isDigit = false) (hminus : d ≠ '-') :
      (Number.intText n).getLast? ≠ some d := fun h => hne hd hminus (List.mem_of_getLast? h)
  have hpair : hasPair (fun a b => (a == ':' && endsToken b) || (endsToken a && b == '#'))
      (Number.intText n) = false := by
    refine hasPair_eq_false fun a ha b _ => ?_
    have hcolon := ne_of_mem_intText ha (d := ':') (by decide) (by decide)
    simp [hcolon, (plain_of_mem_intText ha).2.2]
  have hbreak : (Number.intText n).any isWrittenBreak = false :=
    List.any_eq_false.2 fun c hc => by simp [(plain_of_mem_intText hc).1]
  have hspecial : (Number.intText n).any isSpecial = false :=
    List.any_eq_false.2 fun c hc => by simp [(plain_of_mem_intText hc).2.1]
  -- Of the indicators only the hyphen could begin an integer, and it is none before a digit.
  have hindicator : hasIndicator (Number.intText n) = false := by
    rw [hasIndicator, hpair]
    simp only [hlast (d := ':') (by decide) (by decide), beq_eq_false_iff_ne.2, ne_eq,
      not_false_eq_true, Bool.or_false]
    obtain ⟨d, ds, hds⟩ := List.exists_cons_of_ne_nil (Number.natText_ne_nil n.natAbs)
    have hd : d.isDigit = true := Number.isDigit_of_mem_natText (hds ▸ List.mem_cons_self ..)
    have hneDigit {b : Char} (hb : b.isDigit = false) : d ≠ b := ne_of_isDigit hd hb
    have hminus := hneDigit (b := '-') (by decide)
    rcases intText_cases n with ⟨-, htext⟩ | ⟨-, htext⟩ <;> rw [htext, hds]
    · have hpoint := hneDigit (b := '.') (by decide)
      have hquestion := hneDigit (b := '?') (by decide)
      have hleading : d ∉ leadingIndicators := by
        intro hmem
        have hnone : leadingIndicators.all (fun b => !b.isDigit) = true := by rfl
        have hother := List.all_eq_true.1 hnone d hmem
        rw [hd] at hother
        cases hother
      simp [List.isPrefixOf, hleading, hminus.symm, hpoint.symm, hquestion, hminus]
    · have hends : endsToken d = false :=
        (plain_of_mem_intText (n := n) (by rw [htext, hds]; simp)).2.2
      have hleading : '-' ∉ leadingIndicators := by decide
      simp [List.isPrefixOf, hleading, hminus.symm, hends]
  rw [allowsPlain, hbreak, hspecial, hindicator]
  simp [hhead (d := ' ') (by decide) (by decide), hlast (d := ' ') (by decide) (by decide)]

/-! ### Form and value -/

/-- Where nothing is found to cut at, there is one piece. -/
theorem pieces_of_not {α : Type} {p : α → Bool} {xs : List α} (hne : xs ≠ [])
    (h : ∀ x ∈ xs, p x = false) : Text.pieces p xs = [xs] := by
  induction xs with
  | nil => exact absurd rfl hne
  | cons x xs ih =>
    rw [Text.pieces, if_neg (by simp [h x (List.mem_cons_self ..)])]
    cases xs with
    | nil => rfl
    | cons y ys => rw [ih (by simp) fun z hz => h z (List.mem_cons_of_mem _ hz)]

/-- Behind its sign an integer is written as the natural number of its size. -/
theorem dropSign_intText (n : Int) : dropSign (Number.intText n) = Number.natText n.natAbs := by
  rcases intText_cases n with ⟨-, htext⟩ | ⟨-, htext⟩ <;> rw [htext]
  · obtain ⟨d, ds, hds⟩ := List.exists_cons_of_ne_nil (Number.natText_ne_nil n.natAbs)
    have hd : d.isDigit = true := Number.isDigit_of_mem_natText (hds ▸ List.mem_cons_self ..)
    rw [hds, dropSign]
    · exact fun _ h => ne_of_isDigit hd (by decide) (List.cons.inj h).1
    · exact fun _ h => ne_of_isDigit hd (by decide) (List.cons.inj h).1
  · rfl

/-- What is written for an integer has the form of one. -/
theorem isIntForm_intText (n : Int) : isIntForm (Number.intText n) = true := by
  rw [isIntForm, dropSign_intText]
  obtain ⟨d, ds, hds⟩ := List.exists_cons_of_ne_nil (Number.natText_ne_nil n.natAbs)
  have hdigits : ∀ c ∈ d :: ds, c.isDigit = true := fun c hc =>
    Number.isDigit_of_mem_natText (hds ▸ hc)
  rw [hds]
  by_cases hzero : d = '0'
  · subst hzero
    rw [Number.natText_eq_of_head_zero hds]
    rfl
  · have hpieces : Text.pieces (· = ':') (d :: ds) = [d :: ds] :=
      pieces_of_not (by simp) fun c hc => by
        simpa using ne_of_isDigit (hdigits c hc) (d := ':') (by decide)
    rw [List.forall_mem_cons] at hdigits
    split
    · next heq => cases heq
    · next heq => exact absurd (List.cons.inj heq).1 hzero
    · simp only [hpieces]
      simp [isDigitGroup, isGroupChar, hdigits.1]
      exact fun c hc => .inl (hdigits.2 c hc)

/-- And it has no form of a floating-point number, for it holds no point. -/
theorem isFloatForm_intText (n : Int) : isFloatForm (Number.intText n) = false := by
  have hnone : (Number.natText n.natAbs).dropWhile (· ≠ '.') = [] := by
    refine List.dropWhile_eq_nil_iff.2 fun c hc => ?_
    simpa using ne_of_isDigit (Number.isDigit_of_mem_natText hc) (d := '.') (by decide)
  rw [isFloatForm, dropSign_intText, hnone]

/-- No word is an integer. -/
theorem not_isIntForm_of_word : (∀ w ∈ nullForms, isIntForm w.toList = false) ∧
    ∀ w ∈ boolForms, isIntForm w.toList = false := by
  have hall : (nullForms ++ boolForms).all (fun w => !isIntForm w.toList) = true := by
    decide +kernel
  rw [List.all_eq_true] at hall
  exact ⟨fun w hw => by simpa using hall w (List.mem_append_left _ hw),
    fun w hw => by simpa using hall w (List.mem_append_right _ hw)⟩

/-- **The text of an integer has the form of an integer.** -/
theorem plainTag_intText (n : Int) : plainTag (.ofChars (Number.intText n)) = .int := by
  have hdrop : dropFinalBreak (Number.intText n) = Number.intText n := by
    refine if_neg fun hlast => ?_
    exact ne_of_mem_intText (List.mem_of_getLast? hlast) (d := '\n') (by decide) (by decide) rfl
  have hform {ws : List String} (hws : ∀ w ∈ ws, isIntForm w.toList = false) :
      ws.contains (String.ofList (Number.intText n)) = false := by
    rw [← Bool.not_eq_true, List.contains_iff_mem]
    intro hmem
    have h := hws _ hmem
    rw [String.toList_ofList, isIntForm_intText] at h
    cases h
  obtain ⟨hnulls, hbools⟩ := not_isIntForm_of_word
  have hnull := hform hnulls
  have hbool := hform hbools
  have hempty : (Number.intText n).isEmpty = false := by
    simpa using intText_ne_nil n
  simp only [plainTag, Text.chars_ofChars, hdrop, hempty, hnull, hbool, isFloatForm_intText,
    isIntForm_intText, Bool.false_and, Bool.false_eq_true, if_false, if_true]

/-- Digits of ASCII are the numeral that they write. -/
theorem numeral_of_isDigit (h : ∀ c ∈ ds, c.isDigit = true) : Text.numeral ds = ds := by
  have hmap : ds.map Text.numeralChar = ds := by
    refine (List.map_congr_left fun c hc => ?_).trans (List.map_id ds)
    have := toNat_of_isDigit (h c hc)
    exact if_pos (by omega)
  have hgap : ∀ c ∈ ds, Text.isNumeralGap c = false := fun c hc => by
    have hne := ne_of_isDigit (h c hc) (d := ' ') (by decide)
    have := toNat_of_isDigit (h c hc)
    simp [Text.isNumeralGap, hne]
    omega
  have hdrop (es : List Char) (hes : ∀ c ∈ es, Text.isNumeralGap c = false) :
      es.dropWhile Text.isNumeralGap = es := by
    cases es with
    | nil => rfl
    | cons e es => rw [List.dropWhile_cons_of_neg (by simp [hes e (List.mem_cons_self ..)])]
  rw [Text.numeral, hmap, Text.trim, hdrop ds hgap, Text.trimEnd,
    hdrop ds.reverse fun c hc => hgap c (List.mem_reverse.1 hc), List.reverse_reverse]

/-- Base 10 has no letter in front of its digits. -/
theorem dropBaseLetter_ten (cs : List Char) : dropBaseLetter 10 cs = cs := by
  rw [dropBaseLetter]
  exact fun _ _ _ _ h => nomatch h

/-- Digits that are not too many are read as their value. -/
theorem integerIn_ten (hne : ds ≠ []) (hds : ∀ c ∈ ds, c.isDigit = true)
    (hlength : ds.length ≤ Number.digitLimit) :
    integerIn 10 (ds.map .char) = .ok (Number.digitsValue 10 ds) := by
  have hchars : (ds.map CodePoint.char).map CodePoint.toChar = ds := by
    rw [List.map_map]
    exact List.map_id _
  have hsign : takeSign ds = (false, ds) := by
    obtain ⟨d, ds, rfl⟩ := List.exists_cons_of_ne_nil hne
    have hd := hds d (List.mem_cons_self ..)
    rw [takeSign]
    · exact fun _ h => ne_of_isDigit hd (by decide) (List.cons.inj h).1
    · exact fun _ h => ne_of_isDigit hd (by decide) (List.cons.inj h).1
  have hall : ds.all (isDigitOf 10) = true := by
    refine List.all_eq_true.2 fun c hc => ?_
    have := toNat_of_isDigit (hds c hc)
    simp only [isDigitOf, Number.digitValue?_of_isDigit (hds c hc), Char.reduceToNat,
      decide_eq_true_eq]
    omega
  simp only [integerIn, hchars, numeral_of_isDigit hds, hsign, dropBaseLetter_ten, hall]
  rw [if_neg (by simpa using hne), if_neg (by omega)]
  rfl

/-- Digits are read as their value. -/
theorem unsignedInteger_natText (h : Number.exceedsDigitLimit n = false) :
    unsignedInteger ((Number.natText n.natAbs).map .char) = .ok n.natAbs := by
  have hvalue := Number.digitsValue_natText n.natAbs
  have hdigits : ∀ c ∈ Number.natText n.natAbs, c.isDigit = true := fun c hc =>
    Number.isDigit_of_mem_natText hc
  have hten := integerIn_ten (Number.natText_ne_nil _) hdigits (Number.length_natText_le h)
  have hcolon : ((Number.natText n.natAbs).map CodePoint.char).contains (.char ':') = false := by
    rw [← Bool.not_eq_true, List.contains_iff_mem, List.mem_map]
    rintro ⟨c, hc, heq⟩
    exact ne_of_isDigit (hdigits c hc) (by decide) (CodePoint.char.inj heq)
  obtain ⟨d, ds, hds⟩ := List.exists_cons_of_ne_nil (Number.natText_ne_nil n.natAbs)
  by_cases hzero : d = '0'
  · subst hzero
    rw [Number.natText_eq_of_head_zero hds] at hds
    rw [hds] at hvalue ⊢
    rw [← hvalue]
    rfl
  · have hne : ∀ ps, CodePoint.char d :: ds.map CodePoint.char ≠ .char '0' :: ps := fun ps heq =>
      hzero (CodePoint.char.inj (List.cons.inj heq).1)
    rw [hvalue] at hten
    rw [hds, List.map_cons] at hcolon hten ⊢
    rw [unsignedInteger, hcolon, hten]
    · exact if_neg (by simp)
    · exact List.cons_ne_nil _ _
    · exact hne []
    · exact fun ps => hne _
    · exact fun ps => hne _
    · exact hne

/-- **The text of an integer is read as the integer.** -/
theorem integerValue_intText (h : Number.exceedsDigitLimit n = false) :
    integerValue (.ofChars (Number.intText n)) = .ok n := by
  have hpoints : digitPoints (.ofChars (Number.intText n)) = (Number.intText n).map .char := by
    refine List.filter_eq_self.2 fun p hp => ?_
    obtain ⟨c, hc, rfl⟩ := List.mem_map.1 hp
    simpa using ne_of_mem_intText hc (d := '_') (by decide) (by decide)
  have hread := unsignedInteger_natText h
  obtain ⟨d, ds, hds⟩ := List.exists_cons_of_ne_nil (Number.natText_ne_nil n.natAbs)
  have hd : d.isDigit = true := Number.isDigit_of_mem_natText (hds ▸ List.mem_cons_self ..)
  rw [integerValue, hpoints]
  rcases intText_cases n with ⟨hn, htext⟩ | ⟨hn, htext⟩ <;> rw [htext, hds] <;> rw [hds] at hread
  · have hsign : takePointSign ((d :: ds).map .char) = (false, (d :: ds).map .char) := by
      rw [List.map_cons, takePointSign]
      · exact fun _ h => ne_of_isDigit hd (by decide) (CodePoint.char.inj (List.cons.inj h).1)
      · exact fun _ h => ne_of_isDigit hd (by decide) (CodePoint.char.inj (List.cons.inj h).1)
    show (fun n => if (takePointSign ((d :: ds).map .char)).1 then -n else n) <$>
      unsignedInteger (takePointSign ((d :: ds).map .char)).2 = .ok n
    rw [hsign, hread]
    exact congrArg Except.ok (Int.natAbs_of_nonneg hn)
  · show (fun n => if true then -n else n) <$> unsignedInteger ((d :: ds).map .char) = .ok n
    rw [hread]
    refine congrArg Except.ok ?_
    simp only [if_true]
    omega

end Yaml
end WorkflowKit
