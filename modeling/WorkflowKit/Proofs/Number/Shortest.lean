/-
# The shortest decimal reads back

The decimal that a floating-point number is written with lies in the interval of the number
(`inRounding_shortestDecimal`), and every decimal in the interval is read as the number
(`ofDecimal_eq_finite`).

The search finds such a decimal because the grid of 17 digits is finer than the interval is wide
(`spacing_lt`).  It starts from the exponent of the leading digit, and the estimate of this exponent
from the number of binary digits is at most two off (`natAbs_estimate_sub_le`).
-/

import WorkflowKit.Proofs.Number.Decimal
import WorkflowKit.Proofs.Number.Rounding

namespace WorkflowKit
namespace Number

variable {m num den : Nat} {q k : Int} {x : ℚ}

/-! ### Decimals -/

/-- The powers of ten between which a number lies. -/
theorem exists_decade (h : 0 < x) : ∃ k : Int, 10 ^ k ≤ x ∧ x < 10 ^ (k + 1) := by
  have hlow := Int.zpow_log_le_self (b := 10) (by decide) h
  have hhigh := Int.lt_zpow_succ_log_self (b := 10) (by decide) x
  push_cast at hlow hhigh
  exact ⟨_, hlow, hhigh⟩

theorem ratio_lt_iff (hden : 0 < den) :
    num * tenTo (-k) < den * tenTo k ↔ (num : ℚ) / den < 10 ^ k := by
  have hpos : (0 : ℚ) < tenTo (-k) := Nat.cast_pos.2 (tenTo_pos _)
  rw [div_lt_iff₀ (Nat.cast_pos.2 hden), ← mul_lt_mul_iff_left₀ hpos, ← Nat.cast_lt (α := ℚ),
    Nat.cast_mul, Nat.cast_mul, cast_tenTo k]
  ring_nf

theorem le_ratio_iff (hden : 0 < den) :
    den * tenTo k ≤ num * tenTo (-k) ↔ 10 ^ k ≤ (num : ℚ) / den := by
  rw [← not_lt, ratio_lt_iff hden, not_lt]

/-- A number as the ratio from which its digits are computed. -/
theorem ratio_eq (m : Nat) (q : Int) :
    ((m * twoTo q : Nat) : ℚ) / twoTo (-q) = m * 2 ^ q := by
  have hpos : (0 : ℚ) < twoTo (-q) := Nat.cast_pos.2 (twoTo_pos _)
  rw [Nat.cast_mul, cast_twoTo q]
  field_simp

/-- A decimal as the ratio that is rounded. -/
theorem decimalRatio_eq (d : Nat) (u : Int) :
    ((d * tenTo u : Nat) : ℚ) / tenTo (-u) = d * 10 ^ u := by
  have hpos : (0 : ℚ) < tenTo (-u) := Nat.cast_pos.2 (tenTo_pos _)
  rw [Nat.cast_mul, cast_tenTo u]
  field_simp

/-- The exponent of the leading digit is found from an estimate that is not too far off. -/
theorem leadingExponent_eq (hden : 0 < den) (hlow : 10 ^ k ≤ (num : ℚ) / den)
    (hhigh : (num : ℚ) / den < 10 ^ (k + 1)) {fuel : Nat} {a : Int} (ha : (a - k).natAbs ≤ fuel) :
    leadingExponent num den fuel a = k := by
  induction fuel generalizing a with
  | zero =>
    rw [leadingExponent]
    omega
  | succ fuel ih =>
    rw [leadingExponent]
    simp only [ratio_lt_iff hden, le_ratio_iff hden]
    split
    · next hlt =>
      have hka : k < a := (zpow_lt_zpow_iff_right₀ (by norm_num)).1 (hlow.trans_lt hlt)
      exact ih (by omega)
    · next hge =>
      have hak : a < k + 1 :=
        (zpow_lt_zpow_iff_right₀ (by norm_num)).1 ((not_lt.1 hge).trans_lt hhigh)
      split
      · next hle => exact ih (by
          have hka : a + 1 < k + 1 := (zpow_lt_zpow_iff_right₀ (by norm_num)).1 (hle.trans_lt hhigh)
          omega)
      · next hlt =>
        have hka : k < a + 1 :=
          (zpow_lt_zpow_iff_right₀ (by norm_num)).1 (hlow.trans_lt (not_le.1 hlt))
        omega

/-! ### Powers of two and of ten -/

/-- Powers of two are compared with powers of ten by `2 ^ 93 ≤ 10 ^ 28` and `10 ^ 59 ≤ 2 ^ 196`. -/
theorem two_zpow_le_ten_zpow {e b : Int} (hpos : 0 ≤ e → 28 * e ≤ 93 * b)
    (hneg : e < 0 → 59 * e ≤ 196 * b) : (2 : ℚ) ^ e ≤ 10 ^ b := by
  have hpow (a : ℚ) (b : Int) (n : Nat) : (a ^ b) ^ n = a ^ (b * n) := by
    rw [zpow_mul, zpow_natCast]
  have hpow' (a : ℚ) (n : Nat) (b : Int) : (a ^ n) ^ b = a ^ (n * b : Int) := by
    rw [zpow_mul, zpow_natCast]
  rcases le_or_gt 0 e with he | he
  · refine le_of_pow_le_pow_left₀ (n := 93) (by norm_num) (ten_zpow_pos b).le ?_
    calc ((2 : ℚ) ^ e) ^ 93 = (2 ^ 93) ^ e := by rw [hpow, hpow', mul_comm]
      _ ≤ (10 ^ 28) ^ e := zpow_le_zpow_left₀ he (by norm_num) (by norm_num)
      _ = 10 ^ (28 * e) := by rw [hpow']; norm_cast
      _ ≤ 10 ^ (b * 93) := zpow_le_zpow_right₀ (by norm_num) (by have := hpos he; omega)
      _ = (10 ^ b) ^ 93 := by rw [hpow]; norm_cast
  · refine le_of_pow_le_pow_left₀ (n := 196) (by norm_num) (ten_zpow_pos b).le ?_
    calc ((2 : ℚ) ^ e) ^ 196 = ((2 ^ 196) ^ (-e))⁻¹ := by rw [hpow, hpow', ← zpow_neg]; ring_nf
      _ ≤ ((10 ^ 59) ^ (-e))⁻¹ :=
        inv_anti₀ (by positivity) (zpow_le_zpow_left₀ (by omega) (by norm_num) (by norm_num))
      _ = 10 ^ (59 * e) := by rw [hpow', ← zpow_neg]; ring_nf
      _ ≤ 10 ^ (b * 196) := zpow_le_zpow_right₀ (by norm_num) (by have := hneg he; omega)
      _ = (10 ^ b) ^ 196 := by rw [hpow]; norm_cast

theorem ten_zpow_le_two_zpow {e b : Int} (hpos : 0 < e → 196 * b ≤ 59 * e)
    (hneg : e ≤ 0 → 93 * b ≤ 28 * e) : (10 : ℚ) ^ b ≤ 2 ^ e := by
  have hle : (2 : ℚ) ^ (-e) ≤ 10 ^ (-b) :=
    two_zpow_le_ten_zpow (fun h => by have := hneg (by omega); omega)
      (fun h => by have := hpos (by omega); omega)
  rw [zpow_neg, zpow_neg] at hle
  exact (inv_le_inv₀ (two_zpow_pos e) (ten_zpow_pos b)).1 hle

/-- The decimal exponent that is estimated from the binary one is at most two off. -/
theorem natAbs_estimate_sub_le {e k : Int} (he : -1074 ≤ e) (he' : e ≤ 1023) (hx : 2 ^ e ≤ x)
    (hx' : x < 2 ^ (e + 1)) (hk : 10 ^ k ≤ x) (hk' : x < 10 ^ (k + 1)) :
    (e * 30103 / 100000 - k).natAbs ≤ 2 := by
  have hlow : (10 : ℚ) ^ (e * 30103 / 100000 - 1) ≤ 2 ^ e :=
    ten_zpow_le_two_zpow (by omega) (by omega)
  have hhigh : (2 : ℚ) ^ (e + 1) ≤ 10 ^ (e * 30103 / 100000 + 2) :=
    two_zpow_le_ten_zpow (by omega) (by omega)
  have hlt := (zpow_lt_zpow_iff_right₀ (by norm_num)).1 ((hlow.trans hx).trans_lt hk')
  have hlt' := (zpow_lt_zpow_iff_right₀ (by norm_num)).1 (hk.trans_lt (hx'.trans_le hhigh))
  omega

/-- **The search begins with the exponent of the leading digit.** -/
theorem leadingExponent_estimate (h : Fits m q) (hlow : 10 ^ k ≤ m * (2 : ℚ) ^ q)
    (hhigh : m * (2 : ℚ) ^ q < 10 ^ (k + 1)) :
    leadingExponent (m * twoTo q) (twoTo (-q)) 8 ((m.log2 + q) * 30103 / 100000) = k := by
  have hlog : (2 : ℚ) ^ (m.log2 : Int) ≤ m ∧ (m : ℚ) < 2 ^ ((m.log2 : Int) + 1) := by
    rw [zpow_natCast, ← Nat.cast_succ, zpow_natCast]
    exact ⟨by exact_mod_cast Nat.log2_self_le h.pos.ne', by exact_mod_cast Nat.lt_log2_self⟩
  have hlt : m.log2 < 53 := (Nat.log2_lt h.pos.ne').2 h.lt
  have hbelow : (2 : ℚ) ^ (m.log2 + q) ≤ m * 2 ^ q := by
    rw [zpow_add₀ (by norm_num)]
    exact mul_le_mul_of_nonneg_right hlog.1 (two_zpow_pos q).le
  have habove : m * (2 : ℚ) ^ q < 2 ^ (m.log2 + q + 1) := by
    rw [show (m.log2 : Int) + q + 1 = m.log2 + 1 + q by ring, zpow_add₀ (by norm_num)]
    exact mul_lt_mul_of_pos_right hlog.2 (two_zpow_pos q)
  have hoff := natAbs_estimate_sub_le (e := m.log2 + q) (by have := h.least_le; omega)
    (by have := h.le_greatest; omega) hbelow habove hlow hhigh
  rw [← ratio_eq] at hlow hhigh
  exact leadingExponent_eq (twoTo_pos _) hlow hhigh (by omega)

/-! ### The search -/

theorem readsBack_iff {d : Nat} {u : Int} :
    readsBack m q d u = true ↔ InRounding m q (d * 10 ^ u) := by
  have htwo := two_zpow_pos (q - 2)
  have hunit : (0 : ℚ) < (twoTo (q - 2) * tenTo (-u) : Nat) :=
    Nat.cast_pos.2 (Nat.mul_pos (twoTo_pos _) (tenTo_pos _))
  have hx : ((d * tenTo u * twoTo (2 - q) : Nat) : ℚ) =
      d * 10 ^ u * (2 ^ (q - 2))⁻¹ * (twoTo (q - 2) * tenTo (-u) : Nat) := by
    rw [Nat.cast_mul, Nat.cast_mul, Nat.cast_mul, cast_tenTo u, cast_twoTo (2 - q), ← zpow_neg,
      neg_sub]
    ring_nf
  have hle (a : Nat) : a * (twoTo (q - 2) * tenTo (-u)) ≤ d * tenTo u * twoTo (2 - q) ↔
      (a : ℚ) * 2 ^ (q - 2) ≤ d * 10 ^ u := by
    rw [← Nat.cast_le (α := ℚ), hx, Nat.cast_mul a, mul_le_mul_iff_left₀ hunit, ← div_eq_mul_inv,
      le_div_iff₀ htwo]
  have hge (a : Nat) : d * tenTo u * twoTo (2 - q) ≤ a * (twoTo (q - 2) * tenTo (-u)) ↔
      (d : ℚ) * 10 ^ u ≤ a * 2 ^ (q - 2) := by
    rw [← Nat.cast_le (α := ℚ), hx, Nat.cast_mul a, mul_le_mul_iff_left₀ hunit, ← div_eq_mul_inv,
      div_le_iff₀ htwo]
  rw [readsBack, InRounding]
  split
  · rw [decide_eq_true_eq, hle, hge]
  · rw [decide_eq_true_eq, ← not_le, ← not_le, hle, hge, not_le, not_le]

theorem readsBack_of_nearestReadingBack {d d' : Nat} {u : Int}
    (h : nearestReadingBack m q num den d u = some d') : readsBack m q d' u = true := by
  rw [nearestReadingBack] at h
  split at h
  · cases h
  · next hd _ => exact Option.some.inj h ▸ hd
  · next _ hd => exact Option.some.inj h ▸ hd
  · next hd hd' =>
    have hmem : d' = d ∨ d' = d + 1 := by
      dsimp only at h
      split at h
      · exact .inl (Option.some.inj h).symm
      · split at h
        · exact .inr (Option.some.inj h).symm
        · split at h <;> cases h <;> simp
    obtain rfl | rfl := hmem
    · exact hd
    · exact hd'

theorem isSome_nearestReadingBack {d : Nat} {u : Int}
    (h : readsBack m q d u = true ∨ readsBack m q (d + 1) u = true) :
    (nearestReadingBack m q num den d u).isSome := by
  rw [nearestReadingBack]
  split
  · next hd hd' => simp [hd, hd'] at h
  · rfl
  · rfl
  · dsimp only
    split
    · rfl
    · split <;> rfl

/-- The search ends with a decimal that reads back if there is one among the grids it tries. -/
theorem readsBack_shortestFrom {fuel n i : Nat} (hi : i < fuel)
    (h : let u := k - (n + i : Nat)
      let d := num * tenTo (-u) / (den * tenTo u)
      readsBack m q d u = true ∨ readsBack m q (d + 1) u = true) :
    let r := shortestFrom m q num den k fuel n
    readsBack m q r.1 r.2 = true := by
  induction fuel generalizing n i with
  | zero => omega
  | succ fuel ih =>
    rw [shortestFrom]
    dsimp only at h ⊢
    split
    · next d hd => exact readsBack_of_nearestReadingBack hd
    · next hnone =>
      cases i with
      | zero =>
        rw [add_zero] at h
        exact absurd (isSome_nearestReadingBack h) (by rw [hnone]; nofun)
      | succ i =>
        exact ih (i := i) (by omega) (by rw [show n + 1 + i = n + (i + 1) by omega]; exact h)

/-! ### Seventeen digits suffice -/

/-- The distance to the lower end of the interval, in units of the grid of the number. -/
def lowerWidth (m : Nat) (q : Int) : ℚ :=
  if m = leastFullMantissa ∧ -1074 < q then 1 / 4 else 1 / 2

theorem inRounding_of_lt (hm : 0 < m) (hlow : (m - lowerWidth m q) * 2 ^ q < x)
    (hhigh : x < (m + 1 / 2) * 2 ^ q) : InRounding m q x := by
  have hunit : (2 : ℚ) ^ q = 4 * 2 ^ (q - 2) := by
    obtain ⟨u, rfl⟩ : ∃ u, q = u + 1 + 1 := ⟨q - 2, by omega⟩
    rw [two_zpow_succ, two_zpow_succ, ← mul_assoc, show u + 1 + 1 - 2 = u by omega]
    norm_num
  have hlowEq : ((roundingOf m q).low : ℚ) = 4 * (m - lowerWidth m q) := by
    rw [roundingOf, lowerWidth]
    dsimp only
    split <;> rw [Nat.cast_sub (by omega)] <;> push_cast <;> ring
  have hhighEq : ((roundingOf m q).high : ℚ) = 4 * (m + 1 / 2) := by
    rw [roundingOf]
    push_cast
    ring
  have hlow' : (roundingOf m q).low * 2 ^ (q - 2) < x := by
    rw [hlowEq]
    rw [hunit] at hlow
    linarith
  have hhigh' : x < (roundingOf m q).high * 2 ^ (q - 2) := by
    rw [hhighEq]
    rw [hunit] at hhigh
    linarith
  rw [InRounding]
  split
  · exact ⟨hlow'.le, hhigh'.le⟩
  · exact ⟨hlow', hhigh'⟩

/-- The grid of 17 digits is finer than the interval of a number is wide. -/
theorem spacing_lt (h : Fits m q) {g : ℚ} (hg : g * 10 ^ 16 ≤ m * 2 ^ q) :
    g < (lowerWidth m q + 1 / 2) * 2 ^ q := by
  have hq := two_zpow_pos q
  rw [lowerWidth]
  split
  · next hpower =>
    rw [hpower.1, cast_leastFullMantissa] at hg
    linarith
  · have hm : (m : ℚ) < 2 * 2 ^ 52 := by
      rw [← cast_leastFullMantissa]
      exact_mod_cast h.lt
    have hmul := mul_lt_mul_of_pos_right hm hq
    linarith

/-- Of the two neighbours on such a grid one lies in the interval. -/
theorem inRounding_of_spacing (h : Fits m q) {g : ℚ} {d : Nat} (hg : g * 10 ^ 16 ≤ m * 2 ^ q)
    (hlow : d * g ≤ m * 2 ^ q) (hhigh : m * 2 ^ q < (d + 1 : Nat) * g) :
    InRounding m q (d * g) ∨ InRounding m q ((d + 1 : Nat) * g) := by
  have hq := two_zpow_pos q
  have hwidth : 0 < lowerWidth m q := by
    rw [lowerWidth]
    split <;> norm_num
  have hspacing := spacing_lt h hg
  push_cast at hhigh ⊢
  rcases lt_or_ge ((m - lowerWidth m q) * 2 ^ q) (d * g) with hnear | hfar
  · exact .inl (inRounding_of_lt h.pos hnear (by linarith))
  · refine .inr (inRounding_of_lt h.pos ?_ (by linarith))
    have := mul_pos hwidth hq
    linarith

/-- The neighbours of a number on a decimal grid. -/
theorem neighbours (m : Nat) (q u : Int) :
    let d := m * twoTo q * tenTo (-u) / (twoTo (-q) * tenTo u)
    (d : ℚ) * 10 ^ u ≤ m * 2 ^ q ∧ m * (2 : ℚ) ^ q < (d + 1 : Nat) * 10 ^ u := by
  intro d
  have hten := ten_zpow_pos u
  have hpos : 0 < twoTo (-q) * tenTo u := Nat.mul_pos (twoTo_pos _) (tenTo_pos _)
  have hpos' : (0 : ℚ) < tenTo (-u) := Nat.cast_pos.2 (tenTo_pos _)
  have hratio : ((m * twoTo q * tenTo (-u) : Nat) : ℚ) / (twoTo (-q) * tenTo u : Nat) =
      m * 2 ^ q / 10 ^ u := by
    rw [← ratio_eq, Nat.cast_mul, Nat.cast_mul (twoTo (-q)), cast_tenTo u]
    field_simp
  constructor
  · rw [← le_div_iff₀ hten, ← hratio, le_div_iff₀ (Nat.cast_pos.2 hpos)]
    exact_mod_cast Nat.div_mul_le_self _ _
  · rw [← div_lt_iff₀ hten, ← hratio, div_lt_iff₀ (Nat.cast_pos.2 hpos)]
    have hlt : m * twoTo q * tenTo (-u) < (d + 1) * (twoTo (-q) * tenTo u) := by
      rw [mul_comm (d + 1)]
      exact Nat.lt_mul_div_succ _ hpos
    exact_mod_cast hlt

/-- What rounds to a positive number is at least half a unit. -/
theorem le_of_inRounding (hm : 0 < m) (hx : InRounding m q x) : 2 ^ (q - 1) ≤ x := by
  have hlow := (hx.nearest hm).low
  have hone : (1 : ℚ) ≤ m := by exact_mod_cast hm
  rw [le_div_iff₀ (two_zpow_pos q)] at hlow
  refine le_trans ?_ hlow
  rw [zpow_sub_one₀ (by norm_num), mul_comm]
  exact mul_le_mul_of_nonneg_right (by linarith) (two_zpow_pos q).le

/-- **The decimal that a number is written with lies in the interval of the number.** -/
theorem inRounding_shortestDecimal (h : Fits m q) :
    InRounding m q ((shortestDecimal m q).1 * 10 ^ (shortestDecimal m q).2) := by
  have hm : (0 : ℚ) < m := Nat.cast_pos.2 h.pos
  obtain ⟨k, hlow, hhigh⟩ := exists_decade (mul_pos hm (two_zpow_pos q))
  rw [← readsBack_iff, shortestDecimal, leadingExponent_estimate h hlow hhigh]
  refine readsBack_shortestFrom (i := 16) (by decide) ?_
  obtain ⟨hle, hlt⟩ := neighbours m q (k - (0 + 16 : Nat))
  have hgrid : (10 : ℚ) ^ (k - (0 + 16 : Nat)) * 10 ^ 16 ≤ m * 2 ^ q := by
    refine le_of_eq_of_le ?_ hlow
    rw [zpow_sub₀ (by norm_num)]
    norm_num
  have hnear := inRounding_of_spacing h hgrid hle hlt
  rwa [← readsBack_iff, ← readsBack_iff] at hnear

/-! ### Reading decimals -/

/-- The size of a decimal, by the number of its digits. -/
theorem decimal_bounds {d : Nat} (hd : 0 < d) (u : Int) :
    let size := (Nat.toDigits 10 d).length + u
    (10 : ℚ) ^ (size - 1) ≤ d * 10 ^ u ∧ d * (10 : ℚ) ^ u < 10 ^ size := by
  intro size
  have hten := ten_zpow_pos u
  obtain ⟨l, hl⟩ : ∃ l, (Nat.toDigits 10 d).length = l + 1 :=
    Nat.exists_eq_succ_of_ne_zero (List.length_pos_iff.2 (natText_ne_nil d)).ne'
  have hhigh : d < 10 ^ (l + 1) := (Nat.length_toDigits_le_iff (by decide) (by omega)).1 hl.le
  have hlow : 10 ^ l ≤ d := by
    rcases Nat.eq_zero_or_pos l with rfl | hpos
    · exact hd
    · refine not_lt.1 fun hlt => ?_
      have := (Nat.length_toDigits_le_iff (by decide) hpos).2 hlt
      omega
  have hsize : size = u + (l + 1 : Nat) := by simp only [size, hl]; omega
  constructor
  · rw [hsize, show u + (l + 1 : Nat) - 1 = l + u by push_cast; ring, zpow_add₀ (by norm_num),
      zpow_natCast]
    exact mul_le_mul_of_nonneg_right (by exact_mod_cast hlow) hten.le
  · rw [hsize, add_comm, zpow_add₀ (by norm_num), zpow_natCast]
    exact mul_lt_mul_of_pos_right (by exact_mod_cast hhigh) hten

namespace Binary64

/-- **Every decimal in the interval of a number is read as the number.** -/
theorem ofDecimal_eq_finite {s : Bool} {d : Nat} {u : Int} (h : Fits m q)
    (hx : InRounding m q (d * 10 ^ u)) : ofDecimal s d u = .finite s m q := by
  have hhalf := le_of_inRounding h.pos hx
  have hpos := (two_zpow_pos _).trans_le hhalf
  have hd : 0 < d := by
    rw [Nat.pos_iff_ne_zero]
    rintro rfl
    rw [Nat.cast_zero, zero_mul] at hpos
    exact lt_irrefl _ hpos
  obtain ⟨hlow, hhigh⟩ := decimal_bounds hd u
  have hsmall : (Nat.toDigits 10 d).length + u ≤ 310 := by
    have htop : (2 : ℚ) ^ (q + 52 + 1) ≤ 10 ^ (309 : Int) :=
      two_zpow_le_ten_zpow (by have := h.le_greatest; omega) (by have := h.le_greatest; omega)
    have hlt := (zpow_lt_zpow_iff_right₀ (by norm_num)).1
      (hlow.trans_lt ((lt_of_inRounding h hx).trans_le htop))
    omega
  have hgreat : -330 ≤ (Nat.toDigits 10 d).length + u := by
    have hbottom : (10 : ℚ) ^ (-330 : Int) ≤ 2 ^ (q - 1) :=
      ten_zpow_le_two_zpow (by have := h.least_le; omega) (by have := h.least_le; omega)
    have hlt := (zpow_lt_zpow_iff_right₀ (by norm_num)).1
      (hbottom.trans_lt (hhalf.trans_lt hhigh))
    omega
  rw [ofDecimal, if_neg hd.ne']
  dsimp only
  rw [if_neg (by omega), if_neg (by omega)]
  refine ofRatio_eq_finite (tenTo_pos _) h ?_
  rwa [decimalRatio_eq]

end Binary64

end Number
end WorkflowKit
