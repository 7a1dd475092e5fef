/-
# Rounding to binary floating-point numbers

`Fits` holds of the mantissas and exponents of positive numbers, in the one form that each of them
has.  A ratio that lies in the interval of such a number is rounded to it (`ofRatio_eq_finite`), and
what a ratio is rounded to has this form, zero and the infinities apart (`isStandard_ofRatio`).

The ratio is compared as a rational number.  A power of two with an exponent of either sign stands
in the definitions as two natural numbers, of which one is 1 (`cast_twoTo`).
-/

import Mathlib.Algebra.Order.Field.Power
import Mathlib.Algebra.Order.Ring.Rat
import Mathlib.Data.Int.Log
import Mathlib.Data.Rat.Floor
import Mathlib.Tactic.FieldSimp
import Mathlib.Tactic.Linarith
import Mathlib.Tactic.Positivity
import Mathlib.Tactic.Ring
import WorkflowKit.Number.Shortest

namespace WorkflowKit
namespace Number

/-! ### Powers -/

/-- The natural number that stands for a power of two, over the one that stands for its inverse. -/
theorem cast_twoTo (e : Int) : (twoTo e : ℚ) = 2 ^ e * twoTo (-e) := by
  obtain ⟨n, rfl | rfl⟩ := e.eq_nat_or_neg <;> simp [twoTo]

/-- The same for powers of ten. -/
theorem cast_tenTo (e : Int) : (tenTo e : ℚ) = 10 ^ e * tenTo (-e) := by
  obtain ⟨n, rfl | rfl⟩ := e.eq_nat_or_neg <;> simp [tenTo]

/-- Neither of the two numbers is zero. -/
theorem twoTo_pos (e : Int) : 0 < twoTo e := Nat.pow_pos (by decide)

/-- Neither of the two numbers is zero. -/
theorem tenTo_pos (e : Int) : 0 < tenTo e := Nat.pow_pos (by decide)

/-- Powers of two are positive. -/
theorem two_zpow_pos (e : Int) : (0 : ℚ) < 2 ^ e := zpow_pos (by norm_num) e

/-- Powers of ten are positive. -/
theorem ten_zpow_pos (e : Int) : (0 : ℚ) < 10 ^ e := zpow_pos (by norm_num) e

/-- The next power of two is twice as great. -/
theorem two_zpow_succ (e : Int) : (2 : ℚ) ^ (e + 1) = 2 * 2 ^ e := by
  rw [zpow_add_one₀ (by norm_num), mul_comm]

/-- The powers of two between which a number lies. -/
theorem exists_binade {x : ℚ} (h : 0 < x) : ∃ t : Int, 2 ^ t ≤ x ∧ x < 2 ^ (t + 1) := by
  have hlow := Int.zpow_log_le_self (b := 2) (by decide) h
  have hhigh := Int.lt_zpow_succ_log_self (b := 2) (by decide) x
  push_cast at hlow hhigh
  exact ⟨_, hlow, hhigh⟩

/-- The least mantissa of 53 bits. -/
theorem cast_leastFullMantissa : (leastFullMantissa : ℚ) = 2 ^ 52 := by
  norm_num [leastFullMantissa]

/-- A power of two as a number with that mantissa. -/
theorem two_zpow_add_52 (q : Int) : (2 : ℚ) ^ (q + 52) = leastFullMantissa * 2 ^ q := by
  rw [zpow_add₀ (by norm_num), mul_comm, cast_leastFullMantissa]
  norm_num

/-- A ratio that is scaled by a power of two. -/
theorem scaledRatio_eq (num den : Nat) (q : Int) :
    ((num * twoTo (-q) : Nat) : ℚ) / (den * twoTo q : Nat) = num / den / 2 ^ q := by
  have hpos : (0 : ℚ) < twoTo (-q) := Nat.cast_pos.2 (twoTo_pos _)
  rw [Nat.cast_mul, Nat.cast_mul, cast_twoTo q]
  field_simp

/-! ### The nearest integer -/

/-- The integer that is nearest, and the even one of two. -/
structure Nearest (y : ℚ) (m : Nat) : Prop where
  /-- It is at most one half above. -/
  low : (m : ℚ) - 1 / 2 ≤ y
  /-- It is at most one half below. -/
  high : y ≤ m + 1 / 2
  /-- At a distance of one half it is even. -/
  even : y = m - 1 / 2 ∨ y = m + 1 / 2 → m % 2 = 0

/-- Of two integers that are both nearest neither is greater: at equal distance the even one is
taken. -/
theorem Nearest.le_of_nearest {y : ℚ} {m n : Nat} (hm : Nearest y m) (hn : Nearest y n) :
    m ≤ n := by
  by_contra! hlt
  have hle : (m : ℚ) ≤ n + 1 := by linarith [hm.low, hn.high]
  have hsucc : m = n + 1 := le_antisymm (by exact_mod_cast hle) hlt
  have htie : y = n + 1 / 2 := by
    have hlow := hm.low
    rw [hsucc, Nat.cast_succ] at hlow
    linarith [hn.high]
  have hmEven : m % 2 = 0 := by
    refine hm.even (.inl ?_)
    rw [hsucc, Nat.cast_succ, htie]
    ring
  have hnEven := hn.even (.inr htie)
  omega

/-- So only one integer is nearest. -/
theorem Nearest.unique {y : ℚ} {m n : Nat} (hm : Nearest y m) (hn : Nearest y n) : m = n :=
  le_antisymm (hm.le_of_nearest hn) (hn.le_of_nearest hm)

/-- The division rounds to the nearest integer, and to the even one of two. -/
theorem nearest_divideToNearest (a : Nat) {b : Nat} (hb : 0 < b) :
    Nearest ((a : ℚ) / b) (divideToNearest a b) := by
  have hb' : (0 : ℚ) < b := Nat.cast_pos.2 hb
  have hy : (a : ℚ) / b = (a / b : Nat) + ((a % b : Nat) : ℚ) / b := by
    have hdiv : ((a % b : Nat) : ℚ) + b * (a / b : Nat) = a := by exact_mod_cast Nat.mod_add_div a b
    rw [← hdiv]
    field_simp
    ring
  have hr : ((a % b : Nat) : ℚ) / b < 1 := by
    rw [div_lt_one hb']
    exact_mod_cast Nat.mod_lt a hb
  have hr0 : (0 : ℚ) ≤ ((a % b : Nat) : ℚ) / b := by positivity
  -- The program compares twice the remainder with the divisor, that is the fraction with one half.
  have hhalf : 2 * (a % b) < b ↔ ((a % b : Nat) : ℚ) / b < 1 / 2 := by
    rw [div_lt_div_iff₀ hb' two_pos, one_mul, mul_comm]
    exact_mod_cast Iff.rfl
  have hhalf' : b < 2 * (a % b) ↔ 1 / 2 < ((a % b : Nat) : ℚ) / b := by
    rw [div_lt_div_iff₀ two_pos hb', one_mul, mul_comm]
    exact_mod_cast Iff.rfl
  rw [hy, divideToNearest]
  simp only [hhalf, hhalf']
  generalize ((a % b : Nat) : ℚ) / b = r at *
  split
  · refine ⟨by linarith, by linarith, ?_⟩
    rintro (h | h) <;> linarith
  · split
    · refine ⟨by push_cast; linarith, by push_cast; linarith, ?_⟩
      rintro (h | h) <;> · push_cast at h; linarith
    · have htie : r = 1 / 2 := by linarith
      split
      · next heven => exact ⟨by linarith, by linarith, fun _ => heven⟩
      · next hodd =>
        refine ⟨by push_cast; linarith, by push_cast; linarith, fun _ => ?_⟩
        omega

/-! ### The form of the numbers -/

/-- The mantissas and exponents of positive numbers. -/
structure Fits (m : Nat) (q : Int) : Prop where
  /-- The mantissa is positive. -/
  pos : 0 < m
  /-- It has at most 53 binary digits. -/
  lt : m < 2 * leastFullMantissa
  /-- The exponent is not too small. -/
  least_le : -1074 ≤ q
  /-- The exponent is not too great. -/
  le_greatest : q ≤ 971
  /-- The mantissa has 53 digits, or the exponent is the least one. -/
  full : leastFullMantissa ≤ m ∨ q = -1074

/-- The form that each number has, with zero in a form of its own. -/
def Binary64.IsStandard : Binary64 → Prop
  | .finite _ m q => m = 0 ∧ q = 0 ∨ Fits m q
  | _ => True

/-- The numbers that round to `m · 2 ^ q`. -/
def InRounding (m : Nat) (q : Int) (x : ℚ) : Prop :=
  let r := roundingOf m q
  if r.closed then r.low * 2 ^ (q - 2) ≤ x ∧ x ≤ r.high * 2 ^ (q - 2)
  else r.low * 2 ^ (q - 2) < x ∧ x < r.high * 2 ^ (q - 2)

variable {m : Nat} {q : Int} {x : ℚ}

/-- A number that rounds to another one is nearest to it on the grid of its exponent. -/
theorem InRounding.nearest (h : InRounding m q x) (hm : 0 < m) : Nearest (x / 2 ^ q) m := by
  have hq := two_zpow_pos q
  have hunit : (2 : ℚ) ^ (q - 2) = 2 ^ q / 4 := by
    rw [zpow_sub₀ (by norm_num)]
    norm_num
  have hlow : 4 * (m : ℚ) - 2 ≤ (roundingOf m q).low := by
    rw [roundingOf]
    dsimp only
    split <;> rw [Nat.cast_sub (by omega)] <;> push_cast <;> linarith
  have hhigh : ((roundingOf m q).high : ℚ) = 4 * m + 2 := by simp [roundingOf]
  rw [InRounding, hhigh, hunit] at h
  generalize ((roundingOf m q).low : ℚ) = low at h hlow
  obtain ⟨y, rfl⟩ : ∃ y, x = y * 2 ^ q := ⟨x / 2 ^ q, by field_simp⟩
  have hscale (a : ℚ) : a * (2 ^ q / 4) = a / 4 * 2 ^ q := by ring
  rw [mul_div_assoc, div_self hq.ne', mul_one]
  simp only [hscale, mul_le_mul_iff_left₀ hq, mul_lt_mul_iff_left₀ hq] at h
  split at h
  · next hclosed => exact ⟨by linarith, by linarith, fun _ => of_decide_eq_true hclosed⟩
  · refine ⟨by linarith, by linarith, ?_⟩
    rintro (rfl | rfl) <;> linarith

/-- Below a power of two the neighbour is nearer. -/
theorem InRounding.low_le_of_power (h : InRounding leastFullMantissa q x) (hq : -1074 < q) :
    (2 * leastFullMantissa : ℚ) - 1 / 2 ≤ x / 2 ^ (q - 1) := by
  have hpos := two_zpow_pos (q - 2)
  have hunit : (2 : ℚ) ^ (q - 1) = 2 * 2 ^ (q - 2) := by
    rw [← two_zpow_succ]
    congr 1
    omega
  have hlow : ((roundingOf leastFullMantissa q).low : ℚ) = 4 * leastFullMantissa - 1 := by
    rw [roundingOf, if_pos ⟨rfl, hq⟩, Nat.cast_sub (by decide)]
    push_cast
    ring
  have hle : ((roundingOf leastFullMantissa q).low : ℚ) * 2 ^ (q - 2) ≤ x := by
    rw [InRounding] at h
    split at h
    · exact h.1
    · exact h.1.le
  rw [hunit, le_div_iff₀ (by positivity)]
  rw [hlow] at hle
  linarith

/-! ### Ratios -/

/-- The exponent that is estimated from the number of binary digits is corrected to the right
one. -/
theorem ratioExponent_eq {num den : Nat} {t : Int} (hnum : 0 < num) (hden : 0 < den)
    (hlow : 2 ^ t ≤ (num : ℚ) / den) (hhigh : (num : ℚ) / den < 2 ^ (t + 1)) :
    let e : Int := (num.log2 : Int) - den.log2
    (if num * twoTo (-e) < den * twoTo e then e - 53 else e - 52) = t - 52 := by
  intro e
  have hden' : (0 : ℚ) < den := Nat.cast_pos.2 hden
  have hlog (n : Nat) (hn : 0 < n) :
      (2 : ℚ) ^ (n.log2 : Int) ≤ n ∧ (n : ℚ) < 2 ^ ((n.log2 : Int) + 1) := by
    rw [zpow_natCast, ← Nat.cast_succ, zpow_natCast]
    exact ⟨by exact_mod_cast Nat.log2_self_le hn.ne', by exact_mod_cast Nat.lt_log2_self⟩
  obtain ⟨hnumLow, hnumHigh⟩ := hlog num hnum
  obtain ⟨hdenLow, hdenHigh⟩ := hlog den hden
  -- What the program asks of natural numbers is whether the ratio lies below the estimated power.
  have hbelow : num * twoTo (-e) < den * twoTo e ↔ (num : ℚ) / den < 2 ^ e := by
    have hpos : (0 : ℚ) < twoTo (-e) := Nat.cast_pos.2 (twoTo_pos _)
    rw [div_lt_iff₀ hden', ← mul_lt_mul_iff_left₀ hpos, ← Nat.cast_lt (α := ℚ), Nat.cast_mul,
      Nat.cast_mul, cast_twoTo e]
    ring_nf
  -- The estimate is off by one at most: the binary digits of both numbers say so.
  have hlt : (num : ℚ) / den < 2 ^ (e + 1) := by
    rw [div_lt_iff₀ hden']
    calc (num : ℚ) < 2 ^ ((num.log2 : Int) + 1) := hnumHigh
      _ = 2 ^ (e + 1) * 2 ^ (den.log2 : Int) := by
        rw [← zpow_add₀ (by norm_num)]
        congr 1
        omega
      _ ≤ 2 ^ (e + 1) * den := mul_le_mul_of_nonneg_left hdenLow (two_zpow_pos _).le
  have hgt : 2 ^ (e - 1) < (num : ℚ) / den := by
    rw [lt_div_iff₀ hden']
    calc (2 : ℚ) ^ (e - 1) * den < 2 ^ (e - 1) * 2 ^ ((den.log2 : Int) + 1) :=
        mul_lt_mul_of_pos_left hdenHigh (two_zpow_pos _)
      _ = 2 ^ (num.log2 : Int) := by
        rw [← zpow_add₀ (by norm_num)]
        congr 1
        omega
      _ ≤ num := hnumLow
  have htop : t < e + 1 := (zpow_lt_zpow_iff_right₀ (by norm_num)).1 (hlow.trans_lt hlt)
  have hbottom : e - 1 < t + 1 := (zpow_lt_zpow_iff_right₀ (by norm_num)).1 (hgt.trans hhigh)
  by_cases hb : (num : ℚ) / den < 2 ^ e
  · have ht : t < e := (zpow_lt_zpow_iff_right₀ (by norm_num)).1 (hlow.trans_lt hb)
    rw [if_pos (hbelow.2 hb)]
    omega
  · have ht : e < t + 1 :=
      (zpow_lt_zpow_iff_right₀ (by norm_num)).1 ((not_lt.1 hb).trans_lt hhigh)
    rw [if_neg (mt hbelow.1 hb)]
    omega

namespace Binary64

/-- The number of a mantissa, which may have passed the greatest one, and an exponent. -/
def ofMantissa (negative : Bool) (m : Nat) (q : Int) : Binary64 :=
  let (m, q) := if m = 2 * leastFullMantissa then (leastFullMantissa, q + 1) else (m, q)
  if m = 0 then zero negative
  else if 971 < q then .infinite negative
  else .finite negative m q

/-- A positive ratio is rounded on the grid of its exponent. -/
theorem ofRatio_eq {s : Bool} {num den n : Nat} {t q : Int} (hden : 0 < den)
    (hlow : 2 ^ t ≤ (num : ℚ) / den) (hhigh : (num : ℚ) / den < 2 ^ (t + 1))
    (hq : max (t - 52) (-1074) = q) (hn : Nearest ((num : ℚ) / den / 2 ^ q) n) :
    ofRatio s num den = ofMantissa s n q := by
  have hnum : 0 < num := by
    rw [Nat.pos_iff_ne_zero]
    rintro rfl
    rw [Nat.cast_zero, zero_div] at hlow
    exact absurd hlow (not_le.2 (two_zpow_pos t))
  have hexp := ratioExponent_eq hnum hden hlow hhigh
  rw [ofRatio, if_neg hnum.ne']
  simp only [decide_eq_true_eq]
  dsimp only at hexp
  rw [hexp, hq]
  have hb : 0 < den * twoTo q := Nat.mul_pos hden (twoTo_pos q)
  have hnear := nearest_divideToNearest (num * twoTo (-q)) hb
  rw [scaledRatio_eq] at hnear
  rw [hnear.unique hn, ofMantissa]

/-- A mantissa and an exponent in their one form are those of the number. -/
theorem ofMantissa_of_fits {s : Bool} (h : Fits m q) : ofMantissa s m q = .finite s m q := by
  have hne : m ≠ 2 * leastFullMantissa := h.lt.ne
  simp only [ofMantissa, if_neg hne, if_neg h.pos.ne', if_neg (not_lt.2 h.le_greatest)]

section

variable {s : Bool} {num den : Nat}

/-- What rounds to a number has no more than 53 bits in front of the point, at the exponent of the
number. -/
theorem lt_of_inRounding (h : Fits m q) (hx : InRounding m q x) : x < 2 ^ (q + 52 + 1) := by
  have hhigh := (hx.nearest h.pos).high
  have hq := two_zpow_pos q
  have hm : (m : ℚ) + 1 ≤ 2 * leastFullMantissa := by exact_mod_cast h.lt
  rw [div_le_iff₀ hq] at hhigh
  calc x ≤ (m + 1 / 2) * 2 ^ q := hhigh
    _ < 2 * leastFullMantissa * 2 ^ q := mul_lt_mul_of_pos_right (by linarith) hq
    _ = 2 ^ (q + 52 + 1) := by rw [two_zpow_succ, two_zpow_add_52, mul_assoc]

/-- The grid of the ratio is that of the number. -/
theorem ofRatio_eq_of_full (hden : 0 < den) (h : Fits m q)
    (hx : InRounding m q ((num : ℚ) / den)) (hfull : 2 ^ (q + 52) ≤ (num : ℚ) / den) :
    ofRatio s num den = .finite s m q := by
  have hmax : max (q + 52 - 52) (-1074) = q := by have := h.least_le; omega
  rw [ofRatio_eq hden hfull (lt_of_inRounding h hx) hmax (hx.nearest h.pos), ofMantissa_of_fits h]

/-- The least grid serves all smaller numbers. -/
theorem ofRatio_eq_of_least (hden : 0 < den) (h : Fits m q)
    (hx : InRounding m q ((num : ℚ) / den)) (hlt : (num : ℚ) / den < 2 ^ (q + 52))
    (hq : q = -1074) : ofRatio s num den = .finite s m q := by
  have hnear := hx.nearest h.pos
  have hm : (1 : ℚ) ≤ m := by exact_mod_cast h.pos
  have hpos : 0 < (num : ℚ) / den := by
    have hlow := hnear.low
    rw [le_div_iff₀ (two_zpow_pos q)] at hlow
    exact lt_of_lt_of_le (mul_pos (by linarith) (two_zpow_pos q)) hlow
  obtain ⟨t, hlow, hhigh⟩ := exists_binade hpos
  have ht : t < q + 52 := (zpow_lt_zpow_iff_right₀ (by norm_num)).1 (hlow.trans_lt hlt)
  rw [ofRatio_eq hden hlow hhigh (q := q) (by omega) hnear, ofMantissa_of_fits h]

/-- Below a power of two the grid is finer, and rounding leads up to the power. -/
theorem ofRatio_eq_of_power (hden : 0 < den) (hq : -1074 < q) (hq' : q ≤ 971)
    (hx : InRounding leastFullMantissa q ((num : ℚ) / den))
    (hlt : (num : ℚ) / den < 2 ^ (q + 52)) :
    ofRatio s num den = .finite s leastFullMantissa q := by
  have hunit := two_zpow_pos (q - 1)
  have hlow := hx.low_le_of_power hq
  have hone : (1 : ℚ) ≤ leastFullMantissa := by norm_num [leastFullMantissa]
  have hfine : 2 ^ (q - 1 + 52) ≤ (num : ℚ) / den := by
    rw [le_div_iff₀ hunit] at hlow
    rw [two_zpow_add_52]
    exact le_trans (mul_le_mul_of_nonneg_right (by linarith) hunit.le) hlow
  have htop : (num : ℚ) / den / 2 ^ (q - 1) < 2 * leastFullMantissa := by
    rw [div_lt_iff₀ hunit, mul_assoc, ← two_zpow_add_52, ← two_zpow_succ]
    rwa [show q - 1 + 52 + 1 = q + 52 by ring]
  have hcarry : Nearest ((num : ℚ) / den / 2 ^ (q - 1)) (2 * leastFullMantissa) := by
    refine ⟨by exact_mod_cast hlow, ?_, fun _ => by decide⟩
    push_cast
    linarith
  rw [ofRatio_eq hden hfine (by rwa [show q - 1 + 52 + 1 = q + 52 by ring]) (by omega) hcarry]
  simp only [ofMantissa, if_pos, sub_add_cancel]
  rw [if_neg (by decide), if_neg (by omega)]

/-- **What lies in the interval of a number is rounded to it.** -/
theorem ofRatio_eq_finite (hden : 0 < den) (h : Fits m q)
    (hx : InRounding m q ((num : ℚ) / den)) : ofRatio s num den = .finite s m q := by
  rcases le_or_gt (2 ^ (q + 52)) ((num : ℚ) / den) with hfull | hlt
  · exact ofRatio_eq_of_full hden h hx hfull
  · by_cases hleast : q = -1074
    · exact ofRatio_eq_of_least hden h hx hlt hleast
    · have hle : m ≤ leastFullMantissa := by
        have hlow := (hx.nearest h.pos).low
        rw [le_div_iff₀ (two_zpow_pos q)] at hlow
        rw [two_zpow_add_52] at hlt
        have hm := lt_of_mul_lt_mul_right (hlow.trans_lt hlt) (two_zpow_pos q).le
        have hm' : (m : ℚ) < (leastFullMantissa + 1 : Nat) := by
          push_cast
          linarith
        exact Nat.lt_succ_iff.1 (by exact_mod_cast hm')
      obtain rfl : m = leastFullMantissa := le_antisymm hle (h.full.resolve_right hleast)
      exact ofRatio_eq_of_power hden (lt_of_le_of_ne h.least_le (Ne.symm hleast)) h.le_greatest hx
        hlt

/-! ### The form of what is rounded -/

/-- Rounding leads at most to the next power of two. -/
theorem le_of_nearest {n : Nat} (hlt : x < 2 ^ (q + 53)) (hn : Nearest (x / 2 ^ q) n) :
    n ≤ 2 * leastFullMantissa := by
  have hlow := hn.low
  rw [le_div_iff₀ (two_zpow_pos q)] at hlow
  rw [show q + 53 = q + 52 + 1 by ring, two_zpow_succ, two_zpow_add_52, ← mul_assoc] at hlt
  have hn' := lt_of_mul_lt_mul_right (hlow.trans_lt hlt) (two_zpow_pos q).le
  have hn'' : (n : ℚ) < (2 * leastFullMantissa + 1 : Nat) := by
    push_cast
    linarith
  exact Nat.lt_succ_iff.1 (by exact_mod_cast hn'')

/-- Rounding does not lead below a power of two. -/
theorem le_nearest {n : Nat} (hle : 2 ^ (q + 52) ≤ x) (hn : Nearest (x / 2 ^ q) n) :
    leastFullMantissa ≤ n := by
  have hhigh := hn.high
  rw [div_le_iff₀ (two_zpow_pos q)] at hhigh
  rw [two_zpow_add_52] at hle
  have hn' := le_of_mul_le_mul_right (hle.trans hhigh) (two_zpow_pos q)
  have hn'' : (leastFullMantissa : ℚ) < (n + 1 : Nat) := by
    push_cast
    linarith
  exact Nat.lt_succ_iff.1 (by exact_mod_cast hn'')

/-- A mantissa that may have passed the greatest one by rounding is brought into its one form, or is
infinite. -/
theorem isStandard_ofMantissa {n : Nat} (hle : n ≤ 2 * leastFullMantissa) (hq : -1074 ≤ q)
    (hfull : leastFullMantissa ≤ n ∨ q = -1074) : (ofMantissa s n q).IsStandard := by
  rw [ofMantissa]
  by_cases hcarry : n = 2 * leastFullMantissa
  · simp only [hcarry, if_pos]
    rw [if_neg (by decide)]
    split
    · trivial
    · exact .inr ⟨by decide, by decide, by omega, by omega, .inl le_rfl⟩
  · simp only [hcarry, if_false]
    split
    · exact .inl ⟨rfl, rfl⟩
    · split
      · trivial
      · exact .inr ⟨by omega, by omega, hq, by omega, hfull⟩

/-- **What a ratio is rounded to has the form of the numbers.** -/
theorem isStandard_ofRatio (s : Bool) (num : Nat) {den : Nat} (hden : 0 < den) :
    (ofRatio s num den).IsStandard := by
  rcases Nat.eq_zero_or_pos num with rfl | hnum
  · exact .inl ⟨rfl, rfl⟩
  · obtain ⟨t, hlow, hhigh⟩ := exists_binade (show 0 < (num : ℚ) / den by positivity)
    obtain ⟨q, hq⟩ : ∃ q, max (t - 52) (-1074) = q := ⟨_, rfl⟩
    have hnear := nearest_divideToNearest (num * twoTo (-q)) (Nat.mul_pos hden (twoTo_pos q))
    rw [scaledRatio_eq] at hnear
    rw [ofRatio_eq hden hlow hhigh hq hnear]
    refine isStandard_ofMantissa (le_of_nearest ?_ hnear) (by omega) ?_
    · exact hhigh.trans_le (zpow_le_zpow_right₀ (by norm_num) (by omega))
    · rw [or_iff_not_imp_right]
      intro hne
      refine le_nearest (le_of_eq_of_le ?_ hlow) hnear
      congr 1
      omega

end

end Binary64

end Number
end WorkflowKit
