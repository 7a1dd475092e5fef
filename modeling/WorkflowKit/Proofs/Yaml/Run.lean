/-
# The parts of a text

`runs` cuts a text into blanks, line ends and words.  Nothing is lost, and no two parts of one
kind stand side by side (`proper_runs`).
-/

import WorkflowKit.Yaml.Page

namespace WorkflowKit
namespace Yaml

variable {p : Char → Char → Bool} {a b c : Char} {cs ds : List Char}

/-! ### Neighbours -/

theorem hasPair_append_right (h : hasPair p (cs ++ ds) = false) : hasPair p ds = false := by
  induction cs with
  | nil => exact h
  | cons c cs ih =>
    rw [List.cons_append] at h
    cases hds : cs ++ ds with
    | nil => rw [(List.append_eq_nil_iff.1 hds).2]; rfl
    | cons d ds' =>
      rw [hds, hasPair, Bool.or_eq_false_iff] at h
      exact ih (hds ▸ h.2)

theorem not_of_hasPair (h : hasPair p (cs ++ a :: b :: ds) = false) : p a b = false := by
  have := hasPair_append_right h
  rw [hasPair, Bool.or_eq_false_iff] at this
  exact this.1

namespace Page

/-! ### Parts -/

/-- The characters of a part. -/
def Run.chars : Run → List Char
  | blanks n => List.replicate n ' '
  | breaks cs => cs
  | word cs => cs

/-- Whether a character is of the kind of a part. -/
def Run.owns : Run → Char → Bool
  | blanks _, c => c == ' '
  | breaks _, c => isWrittenBreak c
  | word _, c => c != ' ' && !isWrittenBreak c

@[simp]
theorem Run.owns_blanks (n : Nat) (c : Char) : (blanks n).owns c = (c == ' ') := rfl

@[simp]
theorem Run.owns_breaks (cs : List Char) (c : Char) :
    (breaks cs).owns c = isWrittenBreak c := rfl

@[simp]
theorem Run.owns_word (cs : List Char) (c : Char) :
    (word cs).owns c = (c != ' ' && !isWrittenBreak c) := rfl

/-- The characters of parts. -/
def runChars (rs : List Run) : List Char := rs.flatMap Run.chars

/-- Whether parts are not empty, hold characters of their kinds, and go as far as they can. -/
def Proper : List Run → Prop
  | [] => True
  | r :: rs => r.chars ≠ [] ∧ (∀ c ∈ r.chars, r.owns c = true) ∧
      (∀ c ∈ (runChars rs).head?, r.owns c = false) ∧ Proper rs

variable {r : Run} {rs : List Run}

@[simp]
theorem runChars_nil : runChars [] = [] := rfl

@[simp]
theorem runChars_cons (r : Run) (rs : List Run) :
    runChars (r :: rs) = r.chars ++ runChars rs := List.flatMap_cons ..

/-- Whether two parts are of one kind. -/
def Run.sameKind : Run → Run → Bool
  | blanks _, blanks _ => true
  | breaks _, breaks _ => true
  | word _, word _ => true
  | _, _ => false

/-- A character belongs to parts of one kind only. -/
theorem Run.not_owns {s : Run} (hkind : r.sameKind s = false) (hs : s.owns c = true) :
    r.owns c = false := by
  cases r <;> cases s <;> grind [sameKind, owns, isWrittenBreak]

/-- A character in front of a text makes its first part longer, or is a part of another kind. -/
theorem runs_cons (c : Char) (cs : List Char) :
    (∃ r s rs, runs cs = r :: rs ∧ runs (c :: cs) = s :: rs ∧ s.chars = c :: r.chars ∧
      s.owns = r.owns ∧ r.owns c = true) ∨
    ∃ s, runs (c :: cs) = s :: runs cs ∧ s.chars = [c] ∧ s.owns c = true ∧
      ∀ r ∈ (runs cs).head?, s.sameKind r = false := by
  -- The character belongs to one of three kinds, and the first part of the rest is of this kind or
  -- another.
  rw [runs]
  split
  · next hblank =>
    split
    · next n rs hrs =>
      exact .inl ⟨_, _, rs, hrs, rfl, by simp_all [Run.chars, List.replicate_succ], rfl, hblank⟩
    · next hrs =>
      refine .inr ⟨_, rfl, by simp_all [Run.chars], hblank, fun r hr => ?_⟩
      obtain ⟨rs, heq⟩ := List.head?_eq_some_iff.1 hr
      cases r with
      | blanks n => exact absurd heq (hrs n rs)
      | breaks bs => rfl
      | word ws => rfl
  · next hblank =>
    split
    · next hbreak =>
      split
      · next bs rs hrs => exact .inl ⟨_, _, rs, hrs, rfl, rfl, rfl, hbreak⟩
      · next hrs =>
        refine .inr ⟨_, rfl, rfl, hbreak, fun r hr => ?_⟩
        obtain ⟨rs, heq⟩ := List.head?_eq_some_iff.1 hr
        cases r with
        | blanks n => rfl
        | breaks bs => exact absurd heq (hrs bs rs)
        | word ws => rfl
    · next hbreak =>
      have hother : ∀ ws, (Run.word ws).owns c = true := fun ws => by
        simp [bne, hblank, hbreak]
      split
      · next ws rs hrs => exact .inl ⟨_, _, rs, hrs, rfl, rfl, rfl, hother ws⟩
      · next hrs =>
        refine .inr ⟨_, rfl, rfl, hother [c], fun r hr => ?_⟩
        obtain ⟨rs, heq⟩ := List.head?_eq_some_iff.1 hr
        cases r with
        | blanks n => rfl
        | breaks bs => rfl
        | word ws => exact absurd heq (hrs ws rs)

/-- What stands behind a part that does not go on is of another kind. -/
theorem Proper.owns_head (h : Proper rs) (hkind : ∀ s ∈ rs.head?, r.sameKind s = false) :
    ∀ c ∈ (runChars rs).head?, r.owns c = false := by
  intro c hc
  cases rs with
  | nil => cases hc
  | cons s ss =>
    obtain ⟨hne, howns, -, -⟩ := h
    obtain ⟨d, ds, hs⟩ := List.exists_cons_of_ne_nil hne
    rw [runChars_cons, hs, List.cons_append, List.head?_cons, Option.mem_some_iff] at hc
    exact Run.not_owns (hkind s rfl) (howns c (by rw [hs, hc]; exact List.mem_cons_self ..))

theorem Proper.longer {s : Run} (h : Proper (r :: rs)) (hchars : s.chars = c :: r.chars)
    (howns : s.owns = r.owns) (hc : r.owns c = true) : Proper (s :: rs) := by
  obtain ⟨-, hr, hhead, hrs⟩ := h
  refine ⟨by simp [hchars], fun d hd => ?_, howns ▸ hhead, hrs⟩
  rw [howns]
  rcases List.mem_cons.1 (hchars ▸ hd) with rfl | hd
  · exact hc
  · exact hr d hd

/-- **The parts of a text are its characters, kind by kind.** -/
theorem proper_runs (cs : List Char) : Proper (runs cs) ∧ runChars (runs cs) = cs := by
  induction cs with
  | nil => exact ⟨trivial, rfl⟩
  | cons c cs ih =>
    obtain ⟨hproper, hchars⟩ := ih
    rcases runs_cons c cs with ⟨r, s, rs, hrs, h, hlonger, howns, hc⟩ | ⟨s, h, hs, hc, hkind⟩
    · rw [hrs] at hproper hchars
      refine ⟨h ▸ hproper.longer hlonger howns hc, ?_⟩
      rw [h, runChars_cons, hlonger, List.cons_append, ← runChars_cons, hchars]
    · refine ⟨h ▸ ⟨by simp [hs], by simpa [hs] using hc, hproper.owns_head hkind, hproper⟩, ?_⟩
      rw [h, runChars_cons, hs, hchars]
      rfl

end Page
end Yaml
end WorkflowKit
