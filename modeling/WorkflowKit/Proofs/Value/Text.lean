/-
# Texts and their characters

The text of a string holds no half of a pair, and two strings have two texts.  A text without halves
is the text of its characters.
-/

import Mathlib.Data.List.Basic
import WorkflowKit.Entries
import WorkflowKit.Text

namespace WorkflowKit
namespace Text

theorem ofChars_inj {cs ds : List Char} : ofChars cs = ofChars ds ↔ cs = ds := by
  constructor
  · intro h
    have hinj : Function.Injective CodePoint.char := fun _ _ => CodePoint.char.inj
    exact (List.map_injective_iff.2 hinj) (congrArg points h)
  · rintro rfl; rfl

@[simp]
theorem chars_ofChars (cs : List Char) : (ofChars cs).chars = cs := by
  have hid : CodePoint.toChar ∘ CodePoint.char = id := rfl
  rw [chars, ofChars, List.map_map, hid, List.map_id]

theorem ofString_inj {s t : String} : ofString s = ofString t ↔ s = t :=
  ofChars_inj.trans String.toList_inj

theorem holdsHalf_ofString (s : String) : (ofString s).holdsHalf = false := by
  simp [ofString, ofChars, holdsHalf, CodePoint.char?]

/-- A text without halves is the text of its characters. -/
theorem ofChars_chars {s : Text} (h : s.holdsHalf = false) : ofChars s.chars = s := by
  obtain ⟨ps⟩ := s
  rw [ofChars, chars, mk.injEq]
  induction ps with
  | nil => rfl
  | cons p ps ih =>
    rw [holdsHalf, List.any_cons, Bool.or_eq_false_iff] at h
    cases p with
    | char c => exact congrArg (CodePoint.char c :: ·) (ih h.2)
    | half n => cases h.1

theorem lossy_of_holdsHalf {t : Text} (h : t.holdsHalf = false) : ofString t.lossy = t := by
  obtain ⟨ps⟩ := t
  rw [ofString, lossy, String.toList_ofList, ofChars, Text.mk.injEq]
  induction ps with
  | nil => rfl
  | cons p ps ih =>
    rw [holdsHalf, List.any_cons, Bool.or_eq_false_iff] at h
    cases p with
    | char c => simpa using ih h.2
    | half n => exact absurd h.1 (by simp [CodePoint.char?])

theorem chars?_eq_some {t : Text} {cs : List Char} (h : t.chars? = some cs) : t = ofChars cs := by
  obtain ⟨ps⟩ := t
  rw [ofChars, mk.injEq]
  rw [chars?] at h
  induction ps generalizing cs with
  | nil => cases h; rfl
  | cons p ps ih =>
    rw [List.mapM_cons] at h
    obtain ⟨c, hc, h⟩ := Option.bind_eq_some_iff.1 h
    obtain ⟨ds, hds, hcs⟩ := Option.bind_eq_some_iff.1 h
    cases p with
    | half n => cases hc
    | char c' =>
      cases hc
      cases hcs
      rw [ih hds, List.map_cons]

theorem chars?_ofString (s : String) : (ofString s).chars? = some s.toList := by
  rw [chars?, ofString, ofChars]
  induction s.toList with
  | nil => rfl
  | cons c cs ih =>
    simp only [List.map_cons, List.mapM_cons] at ih ⊢
    rw [ih]
    rfl

theorem toString?_ofString (s : String) : (ofString s).toString? = some s := by
  rw [toString?, chars?_ofString, Option.map_eq_map, Option.map_some, String.ofList_toList]

/-- A text with a half is no string. -/
theorem toString?_of_holdsHalf {t : Text} (h : t.holdsHalf = true) : t.toString? = none := by
  rw [toString?]
  cases hcs : t.chars? with
  | none => rfl
  | some cs =>
    rw [chars?_eq_some hcs] at h
    simp [holdsHalf, ofChars, CodePoint.char?] at h

end Text

/-- Looking up a text among the texts of strings. -/
theorem lookup?_ofString {α : Type} (key : String) (es : List (String × α)) :
    lookup? (Text.ofString key) (es.map fun e => (Text.ofString e.1, e.2)) = lookup? key es := by
  have hkey (k : String) : (Text.ofString k == Text.ofString key) = (k == key) := by
    rw [Bool.eq_iff_iff, beq_iff_eq, beq_iff_eq, Text.ofString_inj]
  simp [lookup?, List.find?_map, Function.comp_def, hkey]

end WorkflowKit
