/-
# The text of a floating-point number is read as the number

The three layouts of digits are spellings of numbers, all with the value of the digits
(`spellsFloat_layoutDigits`).  The digits are those of the shortest decimal, which reads back.  So
the text of a number is read as the number (`exists_value_text`).

Of all spellings of numbers those come back as they were that are the text of a number
(`eq_numberText_iff`): an integer without a sign before zero, or a floating-point number with its
fewest digits and in its own layout.
-/

import WorkflowKit.Proofs.Json.Number

namespace WorkflowKit
namespace Number

variable {ds : List Char}

/-- Digits that begin with the leading one. -/
structure IsSignificand (ds : List Char) : Prop where
  /-- There is a digit. -/
  ne_nil : ds ≠ []
  /-- There are only digits. -/
  digits : ∀ c ∈ ds, c.isDigit = true
  /-- The first one is no zero. -/
  head_ne : ds.head? ≠ some '0'

theorem isSignificand_natText {n : Nat} (h : 0 < n) : IsSignificand (natText n) := by
  refine ⟨natText_ne_nil n, fun c hc => isDigit_of_mem_natText hc, fun hzero => ?_⟩
  obtain ⟨cs, hcs⟩ : ∃ cs, natText n = '0' :: cs := by
    obtain ⟨c, cs, hcs⟩ := List.exists_cons_of_ne_nil (natText_ne_nil n)
    rw [hcs] at hzero ⊢
    exact ⟨cs, by rw [Option.some.inj hzero]⟩
  have hvalue := digitsValue_natText n
  rw [hcs, natText_eq_of_head_zero hcs] at hvalue
  exact h.ne hvalue

theorem IsSignificand.take (h : IsSignificand ds) (n : Nat) : IsSignificand (ds.take (n + 1)) := by
  obtain ⟨d, cs, rfl⟩ := List.exists_cons_of_ne_nil h.ne_nil
  exact ⟨by simp, fun c hc => h.digits c (List.mem_of_mem_take hc), h.head_ne⟩

theorem IsSignificand.append (h : IsSignificand ds) {es : List Char}
    (hes : ∀ c ∈ es, c.isDigit = true) : IsSignificand (ds ++ es) := by
  refine ⟨by simp [h.ne_nil], fun c hc => (List.mem_append.1 hc).elim (h.digits c) (hes c), ?_⟩
  rw [List.head?_append_of_ne_nil _ h.ne_nil]
  exact h.head_ne

/-- Only zeros are dropped at the end of digits, and the digits stay digits. -/
theorem exists_dropTrailingZeros (h : IsSignificand ds) :
    IsSignificand (dropTrailingZeros ds) ∧
      ∃ n, ds = dropTrailingZeros ds ++ List.replicate n '0' := by
  have hsplit : ds = (ds.reverse.dropWhile (· = '0')).reverse ++
      List.replicate (ds.reverse.takeWhile (· = '0')).length '0' := by
    have hzeros : ds.reverse.takeWhile (· = '0') =
        List.replicate (ds.reverse.takeWhile (· = '0')).length '0' :=
      List.eq_replicate_of_mem fun c hc => by
        simpa using List.all_eq_true.1 (List.all_takeWhile (p := (· = '0'))) c hc
    rw [← List.reverse_inj, List.reverse_append, List.reverse_reverse, List.reverse_replicate,
      ← hzeros, List.takeWhile_append_dropWhile]
  have hne : (ds.reverse.dropWhile (· = '0')).reverse ≠ [] := by
    intro hnil
    rw [hnil, List.nil_append] at hsplit
    obtain ⟨d, cs, hcs⟩ := List.exists_cons_of_ne_nil h.ne_nil
    have hd : d ∈ ds := hcs ▸ List.mem_cons_self ..
    rw [hsplit] at hd
    exact h.head_ne (by rw [hcs, (List.mem_replicate.1 hd).2]; rfl)
  have hdrop : dropTrailingZeros ds = (ds.reverse.dropWhile (· = '0')).reverse := by
    rw [dropTrailingZeros]
    split
    · next hnil => exact absurd hnil hne
    · rfl
  rw [← hdrop] at hsplit hne
  refine ⟨⟨hne, fun c hc => h.digits c ?_, fun hzero => h.head_ne ?_⟩, _, hsplit⟩
  · rw [hsplit]
    exact List.mem_append_left _ hc
  · rw [hsplit, List.head?_append_of_ne_nil _ hne, hzero]

end Number

namespace Json

open Number (Binary64 digitsValue natText)

/-- The number that a token stands for, without its sign. -/
def NumberToken.decimal (t : NumberToken) : ℚ :=
  digitsValue 10 (t.whole ++ t.fraction.getD []) *
    10 ^ (t.exponent.getD 0 - (t.fraction.getD []).length)

/-- The characters are those of a floating-point number with this sign and this value. -/
def SpellsFloat (cs : List Char) (negative : Bool) (x : ℚ) : Prop :=
  ∃ (t : NumberToken) (es : List Char), t.Spells es ∧ t.spelled es = cs ∧ t.negative = negative ∧
    ¬ (t.fraction = none ∧ t.exponent = none) ∧ t.decimal = x

variable {ds : List Char} (negative : Bool)

theorem spellsFloat_of_parts {whole : List Char} (fraction : Option (List Char)) {es : List Char}
    {exponent : Option Int} (hwhole : IsWhole whole) (hfraction : ∀ f ∈ fraction, IsFraction f)
    (hexponent : IsExponent es exponent) (hne : ¬ (fraction = none ∧ exponent = none)) :
    SpellsFloat ((if negative then ['-'] else []) ++ (whole ++ (fractionText fraction ++ es)))
      negative (digitsValue 10 (whole ++ fraction.getD []) *
        10 ^ (exponent.getD 0 - (fraction.getD []).length)) :=
  ⟨⟨negative, whole, fraction, exponent,
      (NumberToken.spelled ⟨negative, whole, fraction, exponent, 0⟩ es).length⟩,
    es, ⟨hwhole, hfraction, hexponent, rfl⟩, rfl, rfl, hne, rfl⟩

theorem isDigit_zeros (n : Nat) : ∀ c ∈ List.replicate n '0', c.isDigit = true := by
  intro c hc
  rw [(List.mem_replicate.1 hc).2]
  rfl

theorem isWhole_zero : IsWhole ['0'] := ⟨by simp, by simp, by simp⟩

theorem isExponent_nil : IsExponent [] none := .inl ⟨rfl, rfl⟩

/-- The characters of an exponent write it. -/
theorem isExponent_exponentText (k : Int) : IsExponent ('e' :: Number.exponentText k) (some k) := by
  have hdigits : ∀ c ∈ natText k.natAbs, c.isDigit = true :=
    fun c hc => Number.isDigit_of_mem_natText hc
  obtain ⟨sign, ds, htext, hsign, hds, hvalue, hneg⟩ : ∃ sign ds,
      Number.exponentText k = sign ++ (ds ++ []) ∧ IsSign sign ∧ IsFraction ds ∧
        digitsValue 10 ds = k.natAbs ∧ (sign = ['-'] ↔ k < 0) := by
    refine ⟨[if k < 0 then '-' else '+'], if (natText k.natAbs).length < 2
      then '0' :: natText k.natAbs else natText k.natAbs, ?_, ?_, ?_, ?_, ?_⟩
    · rw [List.append_nil]
      rfl
    · split
      · exact .inr (.inr rfl)
      · exact .inr (.inl rfl)
    · split
      · exact ⟨by simp, List.forall_mem_cons.2 ⟨rfl, hdigits⟩⟩
      · exact ⟨Number.natText_ne_nil _, hdigits⟩
    · split
      · exact (Number.digitsValue_zeros_append 1 _).trans (Number.digitsValue_natText _)
      · exact Number.digitsValue_natText _
    · split <;> simp_all
  have hexponent := exponent?_append (.inl rfl) hsign hds endsDigits_nil
  rw [← htext, hvalue] at hexponent
  refine .inr ⟨k, rfl, hexponent.trans ?_⟩
  have hint : (if sign = ['-'] then -(k.natAbs : Int) else k.natAbs) = k := by
    simp only [hneg]
    split <;> omega
  rw [hint, htext, List.append_nil, List.length_cons, List.length_append,
    show 1 + sign.length + ds.length = sign.length + ds.length + 1 by omega]

/-- A number below one, positionally. -/
theorem spellsFloat_below_one (hds : Number.IsSignificand ds) (n : Nat) :
    SpellsFloat ((if negative then ['-'] else []) ++ '0' :: '.' :: (List.replicate n '0' ++ ds))
      negative (digitsValue 10 ds * 10 ^ (-(n : Int) - ds.length)) := by
  have hzeros : digitsValue 10 ('0' :: (List.replicate n '0' ++ ds)) = digitsValue 10 ds := by
    rw [← List.cons_append, ← List.replicate_succ, Number.digitsValue_zeros_append]
  have hparts := spellsFloat_of_parts negative (some (List.replicate n '0' ++ ds)) isWhole_zero
    (by
      rintro f ⟨⟩
      refine ⟨by simp [hds.ne_nil], fun c hc => ?_⟩
      exact (List.mem_append.1 hc).elim (isDigit_zeros n c) (hds.digits c))
    isExponent_nil (by simp)
  simp only [fractionText, Option.elim_some, Option.getD_some, Option.getD_none,
    List.singleton_append, List.append_nil, hzeros, List.length_append, List.length_replicate]
    at hparts
  convert hparts using 2
  push_cast
  ring_nf

theorem isWhole_of_isSignificand (h : Number.IsSignificand ds) : IsWhole ds :=
  ⟨h.ne_nil, h.digits, fun es hes => absurd (by rw [hes]; rfl) h.head_ne⟩

/-- A whole number, positionally. -/
theorem spellsFloat_whole (hds : Number.IsSignificand ds) (n : Nat) :
    SpellsFloat ((if negative then ['-'] else []) ++ (ds ++ List.replicate n '0' ++ ['.', '0']))
      negative (digitsValue 10 ds * 10 ^ (n : Int)) := by
  have hvalue : digitsValue 10 (ds ++ List.replicate n '0' ++ ['0']) =
      digitsValue 10 ds * 10 ^ (n + 1) := by
    rw [List.append_assoc, ← List.replicate_succ', Number.digitsValue_append_zeros]
  have hparts := spellsFloat_of_parts negative (some ['0'])
    (isWhole_of_isSignificand (hds.append (isDigit_zeros n)))
    (by rintro f ⟨⟩; exact ⟨by simp, by simp⟩) isExponent_nil (by simp)
  simp only [fractionText, Option.elim_some, Option.getD_some, Option.getD_none, List.append_nil,
    hvalue] at hparts
  convert hparts using 1
  push_cast
  rw [pow_succ, mul_assoc, mul_assoc]
  norm_num

/-- A number with digits before and after the point. -/
theorem spellsFloat_split (hds : Number.IsSignificand ds) {n : Nat} (hn : n + 1 < ds.length) :
    SpellsFloat ((if negative then ['-'] else []) ++
        (ds.take (n + 1) ++ '.' :: ds.drop (n + 1)))
      negative (digitsValue 10 ds * 10 ^ ((n : Int) + 1 - ds.length)) := by
  have hparts := spellsFloat_of_parts negative (some (ds.drop (n + 1)))
    (isWhole_of_isSignificand (hds.take n))
    (by
      rintro f ⟨⟩
      exact ⟨by simpa using hn, fun c hc => hds.digits c (List.mem_of_mem_drop hc)⟩)
    isExponent_nil (by simp)
  simp only [fractionText, Option.elim_some, Option.getD_some, Option.getD_none, List.append_nil,
    List.take_append_drop, List.length_drop] at hparts
  convert hparts using 3
  rw [Nat.cast_sub hn.le]
  push_cast
  ring

/-- A number with an exponent. -/
theorem spellsFloat_exponent {d : Char} (hds : Number.IsSignificand (d :: ds)) (k : Int) :
    SpellsFloat ((if negative then ['-'] else []) ++
        ((if ds.isEmpty then [d] else d :: '.' :: ds) ++ 'e' :: Number.exponentText k))
      negative (digitsValue 10 (d :: ds) * 10 ^ (k - ds.length)) := by
  have hwhole : IsWhole [d] := isWhole_of_isSignificand (hds.take 0)
  cases ds with
  | nil =>
    have hparts := spellsFloat_of_parts negative none hwhole
      (by simp) (isExponent_exponentText k) (by simp)
    simpa [fractionText] using hparts
  | cons c ds =>
    have hparts := spellsFloat_of_parts negative (some (c :: ds)) hwhole
      (by
        rintro f ⟨⟩
        exact ⟨by simp, fun e he => hds.digits e (List.mem_cons_of_mem _ he)⟩)
      (isExponent_exponentText k) (by simp)
    simpa [fractionText] using hparts

/-- **Every layout of digits is a spelling of their value.** -/
theorem spellsFloat_layoutDigits (hds : Number.IsSignificand ds) (k : Int) :
    SpellsFloat ((if negative then ['-'] else []) ++ Number.layoutDigits ds k) negative
      (digitsValue 10 ds * 10 ^ (k + 1 - ds.length)) := by
  rw [Number.layoutDigits.eq_def]
  by_cases hlayout : Number.leastPositional ≤ k ∧ k ≤ Number.greatestPositional
  · rw [if_pos hlayout]
    by_cases hneg : k < 0
    · rw [if_pos hneg]
      convert spellsFloat_below_one negative hds (k.natAbs - 1) using 3
      omega
    · rw [if_neg hneg]
      obtain ⟨n, rfl⟩ : ∃ n : Nat, k = n := ⟨k.toNat, by omega⟩
      rw [Int.toNat_natCast]
      dsimp only
      rcases le_or_gt ds.length (n + 1) with hle | hlt
      · rw [List.take_of_length_le hle, List.drop_of_length_le hle,
          show (n : Int) + 1 - ds.length = (n + 1 - ds.length : Nat) by omega]
        exact spellsFloat_whole negative hds (n + 1 - ds.length)
      · have hdrop : (ds.drop (n + 1)).isEmpty = false := by simpa using hlt
        rw [Nat.sub_eq_zero_of_le hlt.le, hdrop, List.replicate_zero, List.append_nil]
        exact spellsFloat_split negative hds hlt
  · rw [if_neg hlayout]
    obtain ⟨d, ds, rfl⟩ := List.exists_cons_of_ne_nil hds.ne_nil
    convert spellsFloat_exponent negative hds k using 3
    rw [List.length_cons]
    push_cast
    ring

/-! ### The text of a number -/

/-- What a spelling of a floating-point number is read as. -/
theorem SpellsFloat.exists_value {negative : Bool} {cs : List Char} {x : ℚ}
    (h : SpellsFloat cs negative x) :
    ∃ (t : NumberToken) (d : Nat) (u : Int), numberToken? cs = some t ∧
      t.value = .ok (.float (Binary64.ofDecimal negative d u)) ∧ d * 10 ^ u = x := by
  obtain ⟨t, es, hes, rfl, rfl, hne, rfl⟩ := h
  refine ⟨t, _, _, numberToken?_spelled hes, ?_, rfl⟩
  rw [NumberToken.value.eq_def]
  split
  · next hfraction hexponent => exact absurd ⟨hfraction, hexponent⟩ hne
  · rfl

/-- The digits of the shortest decimal, laid out, have its value. -/
theorem spellsFloat_decimal {d : Nat} (hd : 0 < d) (u : Int) :
    SpellsFloat ((if negative then ['-'] else []) ++
        Number.layoutDigits (Number.dropTrailingZeros (natText d)) ((natText d).length - 1 + u))
      negative (d * 10 ^ u) := by
  obtain ⟨hds, n, hn⟩ := Number.exists_dropTrailingZeros (Number.isSignificand_natText hd)
  have hlength := congrArg List.length hn
  rw [List.length_append, List.length_replicate] at hlength
  have hvalue : digitsValue 10 (Number.dropTrailingZeros (natText d)) * 10 ^ n = d := by
    rw [← Number.digitsValue_append_zeros, ← hn, Number.digitsValue_natText]
  convert spellsFloat_layoutDigits negative hds ((natText d).length - 1 + u) using 1
  rw [show ((natText d).length : Int) - 1 + u + 1 - (Number.dropTrailingZeros (natText d)).length =
      n + u by omega, zpow_add₀ (by norm_num), zpow_natCast, ← mul_assoc]
  exact_mod_cast congrArg (fun d : Nat => (d : ℚ) * 10 ^ u) hvalue.symm

/-- **The text of a number is read as the number.** -/
theorem exists_value_text {x : Binary64} (hx : x.IsStandard) (hfinite : x.isFinite = true) :
    ∃ t, numberToken? x.text = some t ∧ t.value = .ok (.float x) := by
  cases x with
  | nan | infinite => cases hfinite
  | finite s m q =>
    obtain ⟨rfl, rfl⟩ | hfits := hx
    · have hzero : SpellsFloat (Binary64.finite s 0 0).text s 0 := by
        have hparts := spellsFloat_of_parts s (some ['0']) isWhole_zero
          (by rintro f ⟨⟩; exact ⟨by simp, by simp⟩) isExponent_nil (by simp)
        have hvalue : digitsValue 10 ['0', '0'] = 0 := by decide
        simp only [fractionText, Option.elim_some, Option.getD_some, List.append_nil,
          List.singleton_append, hvalue, Nat.cast_zero, zero_mul] at hparts
        cases s <;> exact hparts
      obtain ⟨t, d, u, ht, hvalue, hd⟩ := hzero.exists_value
      obtain rfl : d = 0 := by
        rw [mul_eq_zero, or_iff_left (Number.ten_zpow_pos u).ne'] at hd
        exact_mod_cast hd
      exact ⟨t, ht, hvalue⟩
    -- The shortest decimal lies in the interval of all numbers that are rounded to this one, so it
    -- is read as it.
    · have hround := Number.inRounding_shortestDecimal hfits
      obtain ⟨d', u', hdu⟩ : ∃ d u, Number.shortestDecimal m q = (d, u) := ⟨_, _, rfl⟩
      rw [hdu] at hround
      have hd : 0 < d' := by
        have hpos := (Number.two_zpow_pos _).trans_le (Number.le_of_inRounding hfits.pos hround)
        exact_mod_cast (mul_pos_iff_of_pos_right (Number.ten_zpow_pos u')).1 hpos
      have htext : SpellsFloat (Binary64.finite s m q).text s (d' * 10 ^ u') := by
        rw [Binary64.text]
        simp only [hdu, if_neg hfits.pos.ne']
        convert spellsFloat_decimal s hd u' using 1
        cases s <;> rfl
      obtain ⟨t, d, u, ht, hvalue, hdecimal⟩ := htext.exists_value
      rw [← hdecimal] at hround
      exact ⟨t, ht, by rw [hvalue, Binary64.ofDecimal_eq_finite hfits hround]⟩

/-- A number that is read has the form of the numbers. -/
theorem isStandard_of_value {t : NumberToken} {x : Binary64} (h : t.value = .ok (.float x)) :
    x.IsStandard := by
  rw [NumberToken.value.eq_def] at h
  split at h
  · split at h <;> cases h
  · cases h
    rw [Binary64.ofDecimal]
    split
    · exact .inl ⟨rfl, rfl⟩
    · dsimp only
      split
      · trivial
      · split
        · exact .inl ⟨rfl, rfl⟩
        · exact Binary64.isStandard_ofRatio _ _ (Number.tenTo_pos _)

/-! ### The spellings that come back -/

/-- A text that a number is written with: an integer within the limit of digits, or a finite
floating-point number. -/
def IsNumberText (cs : List Char) : Prop :=
  (∃ n : Int, Number.exceedsDigitLimit n = false ∧ cs = Number.intText n) ∨
    ∃ x : Binary64, x.IsStandard ∧ x.isFinite = true ∧ cs = x.text

/-- An integer or a floating-point number. -/
def IsNumber : Value → Prop
  | .int _ | .float _ => True
  | _ => False

/-- The text of an integer or a floating-point number. -/
def numberText : Value → List Char
  | .int n => Number.intText n
  | .float x => x.text
  | _ => []

variable {cs : List Char} {t : NumberToken} {v : Value}

theorem isNumber_of_value (h : t.value = .ok v) : IsNumber v := by
  rw [NumberToken.value.eq_def] at h
  split at h
  · split at h <;> cases h
    trivial
  · cases h
    trivial

/-- An integer is read from a token that may be written again. -/
theorem exceedsDigitLimit_of_value {n : Int} (h : t.value = .ok (.int n)) (ht : IsWhole t.whole) :
    Number.exceedsDigitLimit n = false := by
  rw [NumberToken.value.eq_def] at h
  split at h
  · split at h
    · next d hd =>
      rw [Number.readDigits] at hd
      split at hd
      · cases hd
      · next hle =>
        cases hd
        have hlt := Number.digitsValue_lt ht.digits
        have habs : n.natAbs = digitsValue 10 t.whole := by
          cases h
          split <;> simp
        rw [Number.exceedsDigitLimit, decide_eq_false_iff_not, habs, Nat.not_le, Nat.pow_eq]
        generalize Number.digitLimit = k at hle ⊢
        exact hlt.trans_le (Nat.pow_le_pow_right (by decide) (not_lt.1 hle))
    · cases h
  · cases h

/-- A token whose characters are the text of its value has the text of a number. -/
theorem isNumberText_of_eq (ht : numberToken? cs = some t) (hv : t.value = .ok v)
    (h : cs = numberText v) : IsNumberText cs := by
  obtain ⟨es, hes, -⟩ := exists_spells ht
  rw [NumberToken.value.eq_def] at hv
  have hv' := hv
  split at hv
  · split at hv
    · cases hv
      rw [← NumberToken.value.eq_def] at hv'
      exact .inl ⟨_, exceedsDigitLimit_of_value hv' hes.whole, h⟩
    · cases hv
  · cases hv
    rw [← NumberToken.value.eq_def] at hv'
    refine .inr ⟨_, isStandard_of_value hv', ?_, h⟩
    generalize Binary64.ofDecimal _ _ _ = x at h
    cases x with
    | finite => rfl
    | nan => cases h ▸ ht
    | infinite s => cases s <;> cases h ▸ ht

/-- The text of a number is that of the value that it is read as. -/
theorem eq_of_isNumberText (ht : numberToken? cs = some t) (hv : t.value = .ok v)
    (h : IsNumberText cs) : cs = numberText v := by
  obtain ⟨n, hn, rfl⟩ | ⟨x, hx, hfinite, rfl⟩ := h
  · rw [numberToken?_intText, Option.some.injEq] at ht
    rw [← ht, NumberToken.value] at hv
    dsimp only at hv
    rw [Number.readDigits_natText hn] at hv
    have hsign : (if decide (n < 0) = true then -(n.natAbs : Int) else n.natAbs) = n := by
      simp only [decide_eq_true_eq]
      split <;> omega
    dsimp only at hv
    rw [hsign] at hv
    cases hv
    rfl
  · obtain ⟨t', ht', hv'⟩ := exists_value_text hx hfinite
    rw [ht', Option.some.injEq] at ht
    subst ht
    cases hv'.symm.trans hv
    rfl

/-- **A spelling comes back exactly if it is the text of a number.** -/
theorem eq_numberText_iff (ht : numberToken? cs = some t) (hv : t.value = .ok v) :
    cs = numberText v ↔ IsNumberText cs :=
  ⟨isNumberText_of_eq ht hv, eq_of_isNumberText ht hv⟩

end Json
end WorkflowKit
