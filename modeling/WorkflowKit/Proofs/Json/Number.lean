/-
# The spellings of numbers

A number token is taken apart into its sign, the digits before and after the point, and the exponent
(`exists_spells`); put together again, these are read as the same token (`numberToken?_spelled`).
So the characters of a token alone are read as the token (`numberToken?_take`).
-/

import WorkflowKit.Proofs.Json.Text
import WorkflowKit.Proofs.Number.Shortest

namespace WorkflowKit
namespace Json

open Number (Binary64 digitsValue natText)

variable {cs ds rest : List Char} {t : NumberToken}

/-! ### Rows of digits -/

/-- A text does not go on with a digit. -/
def EndsDigits (rest : List Char) : Prop := ∀ c ∈ rest.head?, c.isDigit = false

theorem endsDigits_nil : EndsDigits [] := nofun

/-- The digits in front of a text that goes on with none are taken, and no more. -/
theorem takeWhile_isDigit (hds : ∀ c ∈ ds, c.isDigit = true) (hrest : EndsDigits rest) :
    (ds ++ rest).takeWhile Char.isDigit = ds := by
  rw [List.takeWhile_append_of_pos hds]
  cases rest with
  | nil => simp
  | cons c rest => rw [List.takeWhile_cons_of_neg (by simp [hrest c rfl]), List.append_nil]

/-- Digits before a point: a zero only alone. -/
structure IsWhole (ds : List Char) : Prop where
  /-- There is a digit. -/
  ne_nil : ds ≠ []
  /-- There are only digits. -/
  digits : ∀ c ∈ ds, c.isDigit = true
  /-- Nothing follows a zero at the start. -/
  alone : ∀ es, ds = '0' :: es → es = []

/-- Digits after a point. -/
structure IsFraction (ds : List Char) : Prop where
  /-- There is a digit. -/
  ne_nil : ds ≠ []
  /-- There are only digits. -/
  digits : ∀ c ∈ ds, c.isDigit = true

/-- The digits before a point are found again in front of a text that goes on with no digit. -/
theorem wholeDigits_append (h : IsWhole ds) (hrest : EndsDigits rest) :
    wholeDigits (ds ++ rest) = ds := by
  rw [wholeDigits.eq_def]
  split
  · next es hes =>
    obtain ⟨d, ds, rfl⟩ := List.exists_cons_of_ne_nil h.ne_nil
    obtain ⟨rfl, -⟩ := List.cons.inj hes
    rw [h.alone ds rfl]
  · exact takeWhile_isDigit h.digits hrest

/-- What is found is of the form of digits before a point. -/
theorem isWhole_wholeDigits (h : wholeDigits cs ≠ []) : IsWhole (wholeDigits cs) := by
  rw [wholeDigits.eq_def] at h ⊢
  split at h
  · exact ⟨by simp, by simp, by simp⟩
  · next hzero =>
    refine ⟨h, fun c hc => List.all_eq_true.1 List.all_takeWhile c hc, fun es hes => ?_⟩
    obtain ⟨rest, hrest⟩ := List.takeWhile_prefix Char.isDigit (l := cs)
    rw [hes] at hrest
    exact absurd hrest.symm (hzero _)

/-- It stands at the start of the text. -/
theorem wholeDigits_prefix (cs : List Char) : wholeDigits cs <+: cs := by
  rw [wholeDigits.eq_def]
  split
  · exact ⟨_, rfl⟩
  · exact List.takeWhile_prefix _

/-! ### The part after the point -/

/-- The point and the digits after it, if there are any. -/
def fractionText (fraction : Option (List Char)) : List Char :=
  fraction.elim [] ('.' :: ·)

/-- A fraction is found again in front of a text that goes on with neither a digit nor a point. -/
theorem fraction?_append {fraction : Option (List Char)} (h : ∀ f ∈ fraction, IsFraction f)
    (hrest : EndsDigits rest) (hpoint : rest.head? ≠ some '.') :
    fraction? (fractionText fraction ++ rest) = fraction := by
  cases fraction with
  | none =>
    rw [fractionText, Option.elim_none, List.nil_append, fraction?.eq_def]
    split
    · exact absurd rfl hpoint
    · rfl
  | some f =>
    have hf := h f rfl
    rw [fractionText, Option.elim_some, List.cons_append, fraction?,
      takeWhile_isDigit hf.digits hrest, if_neg (by simp [hf.ne_nil])]

/-- What is found is not empty and holds digits alone. -/
theorem isFraction_of_fraction? : ∀ f ∈ fraction? cs, IsFraction f := by
  intro f hf
  rw [fraction?.eq_def] at hf
  split at hf
  · dsimp only at hf
    split at hf
    · cases hf
    · next hne =>
      cases hf
      exact ⟨by simpa using hne, fun c hc => List.all_eq_true.1 List.all_takeWhile c hc⟩
  · cases hf

/-- With its point it stands at the start of the text. -/
theorem fractionText_prefix (cs : List Char) : fractionText (fraction? cs) <+: cs := by
  rw [fraction?.eq_def]
  split
  · dsimp only
    split
    · exact List.nil_prefix
    · exact List.cons_prefix_cons.2 ⟨rfl, List.takeWhile_prefix _⟩
  · exact List.nil_prefix

/-! ### The exponent -/

/-- The characters that may stand between the letter of an exponent and its digits. -/
def IsSign (sign : List Char) : Prop := sign = [] ∨ sign = ['+'] ∨ sign = ['-']

/-- An exponent is found again in front of a text that goes on with no digit: its letter, its sign
and its digits. -/
theorem exponent?_append {letter : Char} {sign : List Char} (hletter : letter = 'e' ∨ letter = 'E')
    (hsign : IsSign sign) (hds : IsFraction ds) (hrest : EndsDigits rest) :
    exponent? (letter :: (sign ++ (ds ++ rest))) =
      some (if sign = ['-'] then -(digitsValue 10 ds : Int) else digitsValue 10 ds,
        1 + sign.length + ds.length) := by
  have htake := takeWhile_isDigit hds.digits hrest
  have hempty : ds.isEmpty = false := List.isEmpty_eq_false_iff.2 hds.ne_nil
  obtain rfl | rfl | rfl := hsign
  · obtain ⟨d, ds, rfl⟩ := List.exists_cons_of_ne_nil hds.ne_nil
    have hd := hds.digits d (List.mem_cons_self ..)
    have hminus : d ≠ '-' := by rintro rfl; exact absurd hd (by decide)
    have hplus : d ≠ '+' := by rintro rfl; exact absurd hd (by decide)
    rw [List.cons_append] at htake
    simp [exponent?.eq_def, hletter, hminus, hplus, htake]
  · simp [exponent?.eq_def, hletter, htake, hempty]
  · simp [exponent?.eq_def, hletter, htake, hempty]

/-- The exponent at the start of a text is a letter, a sign or none, and digits. -/
theorem exists_of_exponent? {e : Int} {n : Nat} (h : exponent? cs = some (e, n)) :
    ∃ letter sign ds rest, cs = letter :: (sign ++ (ds ++ rest)) ∧ (letter = 'e' ∨ letter = 'E') ∧
      IsSign sign ∧ IsFraction ds ∧ EndsDigits rest := by
  have hends (cs : List Char) : EndsDigits (cs.dropWhile Char.isDigit) := by
    intro c hc
    have := List.head?_dropWhile_not Char.isDigit cs
    rw [hc] at this
    simpa using this
  cases cs with
  | nil => cases h
  | cons letter cs =>
    rw [exponent?.eq_def] at h
    dsimp only at h
    split at h
    · next hletter =>
      obtain ⟨sign, cs', hcs, hsign, hne⟩ : ∃ sign cs', cs = sign ++ cs' ∧ IsSign sign ∧
          cs'.takeWhile Char.isDigit ≠ [] := by
        rcases cs with _ | ⟨c, cs⟩
        · simp at h
        · by_cases hminus : c = '-'
          · refine ⟨['-'], cs, by simp [hminus], .inr (.inr rfl), fun hnil => ?_⟩
            simp [hminus, hnil] at h
          · by_cases hplus : c = '+'
            · refine ⟨['+'], cs, by simp [hplus], .inr (.inl rfl), fun hnil => ?_⟩
              simp [hplus, hnil] at h
            · refine ⟨[], c :: cs, rfl, .inl rfl, fun hnil => ?_⟩
              simp [hminus, hplus, hnil] at h
      refine ⟨letter, sign, cs'.takeWhile Char.isDigit, cs'.dropWhile Char.isDigit, ?_, hletter,
        hsign, ⟨hne, fun c hc => List.all_eq_true.1 List.all_takeWhile c hc⟩, hends cs'⟩
      rw [List.takeWhile_append_dropWhile, hcs]
    · cases h

/-- The characters of an exponent, or none. -/
def IsExponent (es : List Char) (exponent : Option Int) : Prop :=
  es = [] ∧ exponent = none ∨ ∃ e, exponent = some e ∧ exponent? es = some (e, es.length)

/-- An exponent that is found stands at the start of the text, with as many characters as it says.
-/
theorem isExponent_take {e : Int} {n : Nat} (h : exponent? cs = some (e, n)) :
    IsExponent (cs.take n) (some e) ∧ n ≤ cs.length := by
  obtain ⟨letter, sign, ds, rest, rfl, hletter, hsign, hds, hrest⟩ := exists_of_exponent? h
  have happend := exponent?_append hletter hsign hds hrest
  rw [happend, Option.some.injEq, Prod.mk.injEq] at h
  obtain ⟨rfl, rfl⟩ := h
  have hnil := exponent?_append hletter hsign hds endsDigits_nil
  have htake : (letter :: (sign ++ (ds ++ rest))).take (1 + sign.length + ds.length) =
      letter :: (sign ++ (ds ++ [])) := by
    have hlength : 1 + sign.length + ds.length = (letter :: (sign ++ ds)).length := by simp; omega
    have hassoc : letter :: (sign ++ (ds ++ rest)) = letter :: (sign ++ ds) ++ rest := by simp
    rw [hlength, hassoc, List.take_left, List.append_nil]
  rw [htake]
  refine ⟨.inr ⟨_, rfl, hnil.trans ?_⟩, by simp; omega⟩
  simp only [List.append_nil, List.length_cons, List.length_append]
  rw [show 1 + sign.length + ds.length = sign.length + ds.length + 1 by omega]

/-- An exponent begins with neither a digit nor a point, so what stands before it ends there. -/
theorem IsExponent.endsDigits {es : List Char} {exponent : Option Int}
    (h : IsExponent es exponent) : EndsDigits es ∧ es.head? ≠ some '.' := by
  obtain ⟨rfl, -⟩ | ⟨e, -, he⟩ := h
  · simp [EndsDigits]
  · obtain ⟨letter, sign, ds, rest, rfl, rfl | rfl, -⟩ := exists_of_exponent? he <;>
      simp [EndsDigits]

/-! ### The whole token -/

/-- The characters of a token, given those of its exponent. -/
def NumberToken.spelled (t : NumberToken) (es : List Char) : List Char :=
  (if t.negative then ['-'] else []) ++ (t.whole ++ (fractionText t.fraction ++ es))

/-- The parts of a token are those of a number. -/
structure NumberToken.Spells (t : NumberToken) (es : List Char) : Prop where
  /-- Before the point. -/
  whole : IsWhole t.whole
  /-- After the point. -/
  fraction : ∀ f ∈ t.fraction, IsFraction f
  /-- The exponent. -/
  exponent : IsExponent es t.exponent
  /-- The length. -/
  length : t.length = (t.spelled es).length

/-- Nor does a fraction, so the digits before the point end there. -/
theorem endsDigits_fractionText {fraction : Option (List Char)} {es : List Char}
    (h : EndsDigits es) : EndsDigits (fractionText fraction ++ es) := by
  cases fraction with
  | none => exact h
  | some f => simp [EndsDigits, fractionText]

/-- The length of a token is that of its parts. -/
theorem length_spelled (t : NumberToken) (es : List Char) :
    (t.spelled es).length = (if t.negative then 1 else 0) + t.whole.length +
      (fractionText t.fraction).length + es.length := by
  rw [NumberToken.spelled]
  split <;> simp <;> omega

/-- The parts of a token, of which each begins where the part before ends. -/
theorem unsignedToken?_eq (negative : Bool) (cs : List Char) :
    unsignedToken? negative cs =
      if wholeDigits cs = [] then none
      else
        let afterWhole := cs.drop (wholeDigits cs).length
        let used := (fractionText (fraction? afterWhole)).length
        let exponent := exponent? (afterWhole.drop used)
        some
          { negative
            whole := wholeDigits cs
            fraction := fraction? afterWhole
            exponent := exponent.map Prod.fst
            length := (if negative then 1 else 0) + (wholeDigits cs).length + used +
              (exponent.map Prod.snd).getD 0 } := by
  rw [unsignedToken?]
  simp only [List.isEmpty_iff]
  cases fraction? (cs.drop (wholeDigits cs).length) with
  | none =>
    simp only [fractionText, Option.elim_none, List.length_nil]
    cases exponent? ((cs.drop (wholeDigits cs).length).drop 0) <;> rfl
  | some f =>
    simp only [fractionText, Option.elim_some, List.length_cons]
    cases exponent? ((cs.drop (wholeDigits cs).length).drop (f.length + 1)) <;> rfl

/-- A token without its sign is read from its parts, put together again. -/
theorem unsignedToken?_spelled {es : List Char} (h : t.Spells es) :
    unsignedToken? t.negative (t.whole ++ (fractionText t.fraction ++ es)) = some t := by
  obtain ⟨hends, hpoint⟩ := h.exponent.endsDigits
  have hlength := h.length
  rw [length_spelled] at hlength
  have hexponent : exponent? es = t.exponent.map fun e => (e, es.length) := by
    obtain ⟨rfl, he⟩ | ⟨e, he, hes⟩ := h.exponent
    · rw [he]
      rfl
    · rw [hes, he]
      rfl
  have hzero : t.exponent = none → es.length = 0 := by
    intro hnone
    obtain ⟨rfl, -⟩ | ⟨e, he, -⟩ := h.exponent
    · rfl
    · cases he.symm.trans hnone
  rw [unsignedToken?_eq, wholeDigits_append h.whole (endsDigits_fractionText hends),
    if_neg h.whole.ne_nil]
  simp only [List.drop_left, fraction?_append h.fraction hends hpoint, hexponent, Option.map_map,
    Function.comp_def, Option.map_id']
  obtain ⟨negative, whole, fraction, exponent, length⟩ := t
  cases exponent with
  | none => simpa [hzero rfl] using hlength.symm
  | some e => simpa using hlength.symm

/-- **The characters of a token are read as the token.** -/
theorem numberToken?_spelled {es : List Char} (h : t.Spells es) :
    numberToken? (t.spelled es) = some t := by
  have hunsigned := unsignedToken?_spelled h
  rw [NumberToken.spelled]
  cases hneg : t.negative with
  | true =>
    rw [hneg] at hunsigned
    simpa [numberToken?] using hunsigned
  | false =>
    rw [hneg] at hunsigned
    obtain ⟨d, ds, hds⟩ := List.exists_cons_of_ne_nil h.whole.ne_nil
    have hd := h.whole.digits d (hds ▸ List.mem_cons_self ..)
    have hminus : d ≠ '-' := by rintro rfl; exact absurd hd (by decide)
    rw [hds] at hunsigned ⊢
    simpa [numberToken?.eq_def, hminus] using hunsigned

/-- A token without its sign is the first characters of what it is read from. -/
theorem exists_spells_unsigned {negative : Bool} (h : unsignedToken? negative cs = some t) :
    t.negative = negative ∧ ∃ es, t.Spells es ∧
      t.whole ++ (fractionText t.fraction ++ es) <+: cs := by
  have hdrop {as bs cs : List Char} (h : as ++ bs = cs) : cs.drop as.length = bs := by
    rw [← h, List.drop_left]
  rw [unsignedToken?_eq] at h
  split at h
  · cases h
  · next hne =>
    have hwhole := isWhole_wholeDigits hne
    obtain ⟨as, has⟩ := wholeDigits_prefix cs
    obtain ⟨bs, hbs⟩ := fractionText_prefix as
    dsimp only at h
    rw [hdrop has, hdrop hbs] at h
    have hprefix {es : List Char} (hes : es <+: bs) :
        wholeDigits cs ++ (fractionText (fraction? as) ++ es) <+: cs := by
      obtain ⟨rest, rfl⟩ := hes
      exact ⟨rest, by rw [List.append_assoc, List.append_assoc, hbs, has]⟩
    cases he : exponent? bs with
    | none =>
      rw [he] at h
      cases h
      refine ⟨rfl, [], ⟨hwhole, isFraction_of_fraction?, .inl ⟨rfl, rfl⟩, ?_⟩, ?_⟩
      · rw [length_spelled]
        rfl
      · exact hprefix List.nil_prefix
    | some en =>
      rw [he] at h
      cases h
      obtain ⟨hes, hle⟩ := isExponent_take (e := en.1) (n := en.2) he
      refine ⟨rfl, bs.take en.2, ⟨hwhole, isFraction_of_fraction?, hes, ?_⟩, ?_⟩
      · rw [length_spelled, List.length_take_of_le hle]
        rfl
      · exact hprefix (List.take_prefix _ _)

/-- **A token is the first characters of what it is read from.** -/
theorem exists_spells (h : numberToken? cs = some t) :
    ∃ es, t.Spells es ∧ t.spelled es <+: cs := by
  rw [numberToken?.eq_def] at h
  split at h
  · next cs =>
    obtain ⟨hneg, es, hes, hprefix⟩ := exists_spells_unsigned h
    refine ⟨es, hes, ?_⟩
    rw [NumberToken.spelled, if_pos hneg]
    exact List.cons_prefix_cons.2 ⟨rfl, hprefix⟩
  · obtain ⟨hneg, es, hes, hprefix⟩ := exists_spells_unsigned h
    refine ⟨es, hes, ?_⟩
    rw [NumberToken.spelled, if_neg (by simp [hneg])]
    exact hprefix

/-- The characters of a token alone are read as the same token. -/
theorem numberToken?_take (h : numberToken? cs = some t) :
    numberToken? (cs.take t.length) = some t := by
  obtain ⟨es, hes, hprefix⟩ := exists_spells h
  rw [hes.length, ← List.prefix_iff_eq_take.1 hprefix, numberToken?_spelled hes]

end Json
end WorkflowKit
