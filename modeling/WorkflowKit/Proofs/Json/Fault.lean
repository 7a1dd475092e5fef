/-
# What JSON fails with

Reading JSON fails because the text is not JSON, or because an integer is too long.  The latter
needs a row of digits of that length in the text (`read_yields`).

Every reading function takes characters from the start of what is left, so that what it leaves has
no longer rows of digits than what it was given.
-/

import WorkflowKit.Json.Reader
import WorkflowKit.Proofs.Number.Run
import WorkflowKit.Proofs.Outcome

namespace WorkflowKit
namespace Json

open Number (ShortRuns)

/-- The fault of a text that is not JSON. -/
def Fault.IsMistake (f : Fault) : Prop := ∃ m pos, f = .malformed m pos

/-- No row of digits among code points is longer than an integer may be. -/
def Short (ps : List CodePoint) : Prop := ShortRuns (ps.map CodePoint.toChar)

variable {ps qs : List CodePoint} {c : Cursor}

/-- An end of a text has no longer rows of digits than the text. -/
theorem Short.of_suffix (h : Short ps) (hqs : qs <:+ ps) : Short qs :=
  ShortRuns.of_infix h (hqs.map _).isInfix

/-- Nor has a text without its first character. -/
theorem Short.tail {p : CodePoint} (h : Short (p :: ps)) : Short ps :=
  h.of_suffix (List.suffix_cons ..)

/-- What is left behind blanks is an end of the text. -/
theorem skipGap_suffix (pos : Nat) (ps : List CodePoint) : (skipGap pos ps).rest <:+ ps := by
  induction ps generalizing pos with
  | nil => exact List.suffix_rfl
  | cons p ps ih =>
    rw [skipGap]
    split
    · exact (ih _).trans (List.suffix_cons ..)
    · exact List.suffix_rfl

/-- So it has no longer rows of digits. -/
theorem Short.skipGap (h : Short ps) (pos : Nat) : Short (Json.skipGap pos ps).rest :=
  h.of_suffix (skipGap_suffix ..)

/-- The same behind blanks before the next character. -/
theorem Short.skip (h : Short c.rest) : Short c.skip.rest := Short.skipGap h _

/-- An escape is read, or is a mistake of the text. -/
theorem escape_yields (opening pos : Nat) (ps : List CodePoint) :
    Yields Fault.IsMistake (fun _ => True) (escape opening pos ps) := by
  unfold escape
  dsimp only
  repeat' split
  all_goals first | exact trivial | exact ⟨_, _, rfl⟩

/-- A text is read up to its closing quote, or there is a mistake in it. -/
theorem textBody_yields (opening : Nat) (acc : List CodePoint) (skipped pos : Nat)
    (h : Short ps) :
    Yields Fault.IsMistake (fun r => Short r.2.rest) (textBody opening acc skipped pos ps) := by
  induction ps generalizing acc skipped pos with
  | nil => rw [textBody]; exact ⟨_, _, rfl⟩
  | cons p ps ih =>
    cases skipped with
    | succ skipped => exact ih acc skipped _ h.tail
    | zero =>
      rw [textBody]
      split
      · exact h.tail
      · split
        · have hescape := escape_yields opening pos ps
          split
          · exact ih _ _ _ h.tail
          · next hf => exact hescape.error_of hf
        · split
          · exact ⟨_, _, rfl⟩
          · exact ih _ _ _ h.tail

/-- The digits before the point are digits of the text, or a zero. -/
theorem length_wholeDigits_le {cs : List Char} (h : ShortRuns cs) :
    (wholeDigits cs).length ≤ Number.digitLimit := by
  unfold wholeDigits
  split
  · decide
  · exact h.length_takeWhile_le

/-- The digits before the point of a number are a row of digits of the text. -/
theorem length_whole_le {cs : List Char} {t : NumberToken} (h : ShortRuns cs)
    (ht : numberToken? cs = some t) : t.whole.length ≤ Number.digitLimit := by
  have hunsigned {negative : Bool} {ds : List Char} (hds : ShortRuns ds)
      (ht : unsignedToken? negative ds = some t) : t.whole.length ≤ Number.digitLimit := by
    unfold unsignedToken? at ht
    dsimp only at ht
    split at ht
    · cases ht
    · cases ht
      exact length_wholeDigits_le hds
  unfold numberToken? at ht
  split at ht
  · exact hunsigned (h.of_infix (List.suffix_cons ..).isInfix) ht
  · exact hunsigned h ht

/-- A number whose digits before the point are not too many has a value: only these can make an
integer too long. -/
theorem number_yields {t : NumberToken} (h : t.whole.length ≤ Number.digitLimit) :
    Yields Fault.IsMistake (fun _ => True) t.value := by
  unfold NumberToken.value
  split
  · rw [Number.readDigits_eq_ok h]
    trivial
  · trivial

/-- A value that is no collection. -/
theorem atom_yields (h : Short c.rest) :
    Yields Fault.IsMistake (fun r => Short r.2.rest) (atom asValue c) := by
  unfold atom
  split
  · exact h.of_suffix (List.drop_suffix ..)
  · split
    · exact ⟨_, _, rfl⟩
    · next t ht =>
      have hchars : ShortRuns c.numberChars :=
        ShortRuns.of_infix h ((List.takeWhile_prefix _).map _).isInfix
      exact (number_yields (length_whole_le hchars ht)).bind fun v _ =>
        h.of_suffix (List.drop_suffix ..)

mutual

/-- A value of any kind, by induction on the fuel together with items and entries. -/
theorem value_yields (fuel : Nat) {c : Cursor} (h : Short c.rest) :
    Yields Fault.IsMistake (fun r => Short r.2.rest) (value asValue fuel c) := by
  match fuel with
  | 0 => exact ⟨_, _, rfl⟩
  | fuel + 1 =>
    rw [value]
    split
    · next cs hcs =>
      exact (textBody_yields _ _ _ _ (hcs ▸ h).tail).bind fun r hr => hr
    · next cs hcs =>
      have hd := (hcs ▸ h).tail.skipGap (c.pos + 1)
      dsimp only
      split
      · next ds hds => exact (hds ▸ hd).tail
      · exact entries_yields fuel hd
    · next cs hcs =>
      have hd := (hcs ▸ h).tail.skipGap (c.pos + 1)
      dsimp only
      split
      · next ds hds => exact (hds ▸ hd).tail
      · exact items_yields fuel hd
    · exact atom_yields h

/-- The items of a list. -/
theorem items_yields (fuel : Nat) {acc : List Value} {c : Cursor} (h : Short c.rest) :
    Yields Fault.IsMistake (fun r => Short r.2.rest) (items asValue fuel acc c) := by
  match fuel with
  | 0 => exact ⟨_, _, rfl⟩
  | fuel + 1 =>
    rw [items]
    refine (value_yields fuel h).bind fun r hr => ?_
    have hskip := hr.skip
    dsimp only
    split
    · next cs hcs => exact (hcs ▸ hskip).tail
    · next cs hcs => exact items_yields fuel ((hcs ▸ hskip).tail.skipGap _)
    · exact ⟨_, _, rfl⟩

/-- The entries of a mapping. -/
theorem entries_yields (fuel : Nat) {acc : List (Text × Value)} {c : Cursor} (h : Short c.rest) :
    Yields Fault.IsMistake (fun r => Short r.2.rest) (entries asValue fuel acc c) := by
  match fuel with
  | 0 => exact ⟨_, _, rfl⟩
  | fuel + 1 =>
    rw [entries]
    split
    · next cs hcs =>
      refine (textBody_yields _ _ _ _ (hcs ▸ h).tail).bind fun k hk => ?_
      have hkey := hk.skip
      dsimp only
      split
      · next ds hds =>
        refine (value_yields fuel ((hds ▸ hkey).tail.skipGap _)).bind fun v hv => ?_
        have hvalue := hv.skip
        split
        · next es hes => exact (hes ▸ hvalue).tail
        · next es hes => exact entries_yields fuel ((hes ▸ hvalue).tail.skipGap _)
        · exact ⟨_, _, rfl⟩
      · exact ⟨_, _, rfl⟩
    · exact ⟨_, _, rfl⟩

end

/-- **A text without long rows of digits is JSON, or fails because it is not.** -/
theorem read_yields {t : Text} (h : ShortRuns t.chars) :
    Yields Fault.IsMistake (fun _ => True) (read t) := by
  unfold read
  split
  · exact ⟨_, _, rfl⟩
  · refine (value_yields _ (Short.skipGap h 0)).bind fun ⟨v, c⟩ _ => ?_
    dsimp only
    split
    · trivial
    · exact ⟨_, _, rfl⟩

end Json
end WorkflowKit
