/-
# Reading written JSON: texts and numbers

What the writer puts between the quotes of a text is read as the text (`textBody_written`),
whatever code points it holds: control characters through their escapes, halves of pairs as they
are.  The decimal digits of an integer are read as the integer (`atom_intText`), provided that no
character of a number follows them.
-/

import WorkflowKit.Json.Reader
import WorkflowKit.Json.Writer
import WorkflowKit.Proofs.Number.Decimal

namespace WorkflowKit
namespace Json

/-! ### Texts -/

theorem fourHexDigits?_append {cs : List Char} (h : cs.length = 4) (ps : List CodePoint) :
    fourHexDigits? (cs.map .char ++ ps) = fourHexDigits? (cs.map .char) := by
  match cs, h with
  | [_, _, _, _], _ => rfl

/-- The escape of a control character writes its number. -/
theorem fourHexDigits?_hexText :
    ∀ n < 0x20, (Text.hexText 4 n).length = 4 ∧
      fourHexDigits? ((Text.hexText 4 n).map .char) = some n := by
  decide +kernel

/-- The escape of a control character by its number. -/
theorem escape_hexText {c : Char} (hc : c.toNat < 0x20) (opening pos : Nat) {ps : List CodePoint}
    (hps : ps ≠ []) :
    escape opening pos ((('u' :: Text.hexText 4 c.toNat).map .char) ++ ps) = .ok (.char c, 5) := by
  obtain ⟨hlen, hhex⟩ := fourHexDigits?_hexText c.toNat hc
  have hdrop : ((Text.hexText 4 c.toNat).map CodePoint.char ++ ps).drop 4 = ps := by
    rw [List.drop_append_of_le_length (by simp [hlen]), List.drop_of_length_le (by simp [hlen])]
    rfl
  have hhigh : isHighHalf c.toNat = false := by
    simp only [isHighHalf, Bool.and_eq_false_iff, decide_eq_false_iff_not]
    omega
  have hnum : CodePoint.ofNumber c.toNat = .char c := by
    rw [CodePoint.ofNumber, dif_neg (by omega), Char.ofNat_toNat]
  rw [List.map_cons, List.cons_append, escape]
  simp only [hdrop, List.isEmpty_eq_false_iff.2 hps, fourHexDigits?_append hlen, hhex, hhigh, hnum,
    Bool.false_and, Bool.false_eq_true, if_false]

theorem textBody_skip (opening : Nat) (acc : List CodePoint) (pos : Nat) (ps qs : List CodePoint) :
    textBody opening acc ps.length pos (ps ++ qs) =
      textBody opening acc 0 (pos + ps.length) qs := by
  induction ps generalizing pos with
  | nil => rfl
  | cons p ps ih =>
    rw [List.cons_append, List.length_cons, textBody, ih, Nat.add_assoc, Nat.add_comm 1]

/-- An escape is read as the character that it writes. -/
theorem textBody_escape (es : List CodePoint) {opening pos : Nat} {acc ps : List CodePoint}
    {q : CodePoint} (h : escape opening pos (es ++ ps) = .ok (q, es.length)) :
    textBody opening acc 0 pos (.char '\\' :: (es ++ ps)) =
      textBody opening (q :: acc) 0 (pos + 1 + es.length) ps := by
  rw [textBody, if_neg (by decide), if_pos rfl, h]
  exact textBody_skip ..

/-- A code point that stands for itself. -/
theorem textBody_self {opening pos : Nat} {acc : List CodePoint} {p : CodePoint}
    {ps : List CodePoint} (hq : p ≠ .char '"') (hb : p ≠ .char '\\') (hc : 0x20 ≤ p.number) :
    textBody opening acc 0 pos (p :: ps) = textBody opening (p :: acc) 0 (pos + 1) ps := by
  rw [textBody, if_neg hq, if_neg hb, if_neg (by omega)]

theorem textBody_writtenChar (c : Char) (opening pos : Nat) (acc : List CodePoint)
    {ps : List CodePoint} (hps : ps ≠ []) :
    ∃ pos', textBody opening acc 0 pos ((writtenChar c).map .char ++ ps) =
      textBody opening (.char c :: acc) 0 pos' ps := by
  have hshort {d e : Char} (h : shortEscape? d = some e) (hu : d ≠ 'u') :
      ∃ pos', textBody opening acc 0 pos ([.char '\\', .char d] ++ ps) =
        textBody opening (.char e :: acc) 0 pos' ps := by
    refine ⟨_, textBody_escape [.char d] ?_⟩
    rw [List.singleton_append, escape]
    · simp [CodePoint.char?, h]
    · exact fun hd => hu (CodePoint.char.inj hd)
  rw [writtenChar]
  split
  · next h => subst h; exact hshort rfl (by decide)
  split
  · next h => subst h; exact hshort rfl (by decide)
  split
  · next h => subst h; exact hshort rfl (by decide)
  split
  · next h => subst h; exact hshort rfl (by decide)
  split
  · next h => subst h; exact hshort rfl (by decide)
  split
  · next h => subst h; exact hshort rfl (by decide)
  split
  · next h => subst h; exact hshort rfl (by decide)
  split
  · next h =>
    refine ⟨_, textBody_escape (('u' :: Text.hexText 4 c.toNat).map .char) ?_⟩
    rw [escape_hexText h _ _ hps, List.length_map, List.length_cons, (fourHexDigits?_hexText _ h).1]
  · next hq hb _ _ _ _ _ hc =>
    exact ⟨_, textBody_self (by simpa using hq) (by simpa using hb) (Nat.not_lt.1 hc)⟩

theorem textBody_writtenPoint (p : CodePoint) (opening pos : Nat) (acc : List CodePoint)
    {ps : List CodePoint} (hps : ps ≠ []) :
    ∃ pos', textBody opening acc 0 pos (writtenPoint p ++ ps) =
      textBody opening (p :: acc) 0 pos' ps := by
  cases p with
  | char c => exact textBody_writtenChar c opening pos acc hps
  | half n =>
    exact ⟨_, textBody_self (by simp) (by simp) (by rw [CodePoint.number]; omega)⟩

/-- **A text between quotes is read as the text.** -/
theorem textBody_written (t : List CodePoint) (opening pos : Nat) (acc rest : List CodePoint) :
    ∃ pos', textBody opening acc 0 pos (t.flatMap writtenPoint ++ .char '"' :: rest) =
      .ok (⟨acc.reverse ++ t⟩, ⟨pos', rest⟩) := by
  induction t generalizing pos acc with
  | nil => exact ⟨_, by rw [List.flatMap_nil, List.nil_append, textBody, if_pos rfl,
      List.append_nil]⟩
  | cons p t ih =>
    have hps : t.flatMap writtenPoint ++ .char '"' :: rest ≠ [] := by simp
    obtain ⟨pos₁, h₁⟩ := textBody_writtenPoint p opening pos acc hps
    obtain ⟨pos₂, h₂⟩ := ih pos₁ (p :: acc)
    refine ⟨pos₂, ?_⟩
    rw [List.flatMap_cons, List.append_assoc, h₁, h₂, List.reverse_cons, List.append_assoc]
    rfl

/-! ### Integers -/

/-- Text that no number goes on with. -/
def EndsNumber (rest : List CodePoint) : Prop :=
  ∀ p ∈ rest.head?, p.isCharWith isNumberChar = false

theorem takeWhile_isNumberChar {cs : List Char} (hcs : ∀ c ∈ cs, isNumberChar c = true)
    {rest : List CodePoint} (hrest : EndsNumber rest) :
    (cs.map CodePoint.char ++ rest).takeWhile (·.isCharWith isNumberChar) =
      cs.map CodePoint.char := by
  rw [List.takeWhile_append_of_pos (by
    simpa [CodePoint.isCharWith] using hcs)]
  cases rest with
  | nil => simp
  | cons p rest => rw [List.takeWhile_cons, hrest p rfl]; simp

theorem isNumberChar_of_mem_intText {n : Int} {c : Char} (h : c ∈ Number.intText n) :
    isNumberChar c = true := by
  have hnat (hc : c ∈ Number.natText n.natAbs) : isNumberChar c = true := by
    simp [isNumberChar, Number.isDigit_of_mem_natText hc]
  rw [Number.intText] at h
  split at h
  · rcases List.mem_cons.1 h with rfl | h
    · rfl
    · exact hnat h
  · exact hnat h

/-- The digits before the point are all digits of a decimal text. -/
theorem wholeDigits_natText (n : Nat) : wholeDigits (Number.natText n) = Number.natText n := by
  rw [wholeDigits.eq_def]
  split
  · next cs h => rw [h, Number.natText_eq_of_head_zero h]
  · have h := @List.takeWhile_append_of_pos _ Char.isDigit (Number.natText n) [] fun c hc =>
      Number.isDigit_of_mem_natText hc
    simpa using h

theorem unsignedToken?_natText (negative : Bool) (n : Nat) :
    unsignedToken? negative (Number.natText n) = some
      { negative
        whole := Number.natText n
        fraction := none
        exponent := none
        length := (if negative then 1 else 0) + (Number.natText n).length } := by
  have hne : (Number.natText n).isEmpty = false :=
    List.isEmpty_eq_false_iff.2 (Number.natText_ne_nil n)
  simp [unsignedToken?, wholeDigits_natText, hne, fraction?, exponent?]

theorem numberToken?_intText (n : Int) :
    numberToken? (Number.intText n) = some
      { negative := decide (n < 0)
        whole := Number.natText n.natAbs
        fraction := none
        exponent := none
        length := (Number.intText n).length } := by
  rw [Number.intText]
  split
  · next h => simp [numberToken?, unsignedToken?_natText, h, Nat.add_comm]
  · next h =>
    rw [numberToken?.eq_def]
    split
    · next cs hcs =>
      have := Number.isDigit_of_mem_natText (hcs ▸ List.mem_cons_self ..)
      exact absurd this (by decide)
    · simp [unsignedToken?_natText, h]

/-- A text that is no word begins with neither a letter of one nor a sign before a letter. -/
theorem find?_wordValues_intText (n : Int) (rest : List CodePoint) :
    (wordValues.find? fun w => (w.1.map CodePoint.char).isPrefixOf
      ((Number.intText n).map .char ++ rest)) = none := by
  obtain ⟨d, ds, hd⟩ := List.exists_cons_of_ne_nil (Number.natText_ne_nil n.natAbs)
  have hdigit : d.isDigit = true := Number.isDigit_of_mem_natText (hd ▸ List.mem_cons_self ..)
  have hne {c : Char} (hc : c.isDigit = false) : c ≠ d := by
    rintro rfl
    rw [hdigit] at hc
    exact absurd hc (by decide)
  rw [Number.intText, hd]
  split <;>
    simp [wordValues, List.isPrefixOf, hne (c := 'n') rfl, hne (c := 't') rfl, hne (c := 'f') rfl,
      hne (c := 'N') rfl, hne (c := 'I') rfl, hne (c := '-') rfl]

/-- **The decimal text of an integer is read as the integer.** -/
theorem atom_intText {n : Int} (h : Number.exceedsDigitLimit n = false) (pos : Nat)
    {rest : List CodePoint} (hrest : EndsNumber rest) :
    ∃ pos', atom asValue ⟨pos, (Number.intText n).map .char ++ rest⟩ =
      .ok (.int n, ⟨pos', rest⟩) := by
  have hchars : ((Number.intText n).map CodePoint.char).map CodePoint.toChar =
      Number.intText n := by
    rw [List.map_map]
    exact List.map_id _
  have hsign : (if decide (n < 0) = true then -(n.natAbs : Int) else n.natAbs) = n := by
    simp only [decide_eq_true_eq]
    split <;> omega
  refine ⟨pos + (Number.intText n).length, ?_⟩
  simp only [atom, find?_wordValues_intText, Cursor.numberChars, hchars, numberToken?_intText,
    asValue, NumberToken.value,
    takeWhile_isNumberChar (fun c hc => isNumberChar_of_mem_intText hc) hrest,
    Number.readDigits_natText h, hsign]
  simp [bind, Except.bind, pure, Except.pure]

end Json
end WorkflowKit
