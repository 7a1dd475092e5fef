/-
# Lines

How a text falls into lines.  The pair of a carriage return and a line feed is the only end of line
whose two halves are ends as well.  So where a text is put together from its lines, a line feed at
the front of what follows may belong to the end before it, and then an empty line is lost
(`exists_lines_ending`).  Who passes over empty lines does not see this (`filterMap_lines`).

A text whose lines are ended by line feeds instead has the same lines
(`lines_universalNewlines`).
-/

import Mathlib.Data.List.Basic
import WorkflowKit.Proofs.Text.Blank

namespace WorkflowKit
namespace Text

variable {c : Char} {cs x y : List Char}

/-- What ends a line: a carriage return and a line feed, or one character. -/
def IsEnding (t : List Char) : Prop := t = ['\r', '\n'] ∨ ∃ c, isLineEnd c = true ∧ t = [c]

attribute [local simp] lines

theorem lines_pair (cs : List Char) : lines ('\r' :: '\n' :: cs) = [] :: lines cs := by
  simp

/-- The lines of a text that begins with no pair. -/
theorem lines_unpaired (h : c = '\r' → cs.head? ≠ some '\n') :
    lines (c :: cs) =
      if isLineEnd c then [] :: lines cs
      else (c :: (lines cs).headD []) :: (lines cs).tail := by
  have hpair (ds : List Char) (hc : c = '\r') (hcs : cs = '\n' :: ds) : False :=
    h hc (by rw [hcs, List.head?_cons])
  rw [lines]
  · cases lines cs <;> rfl
  · exact hpair

theorem lines_lineEnd (hc : isLineEnd c = true) (h : c = '\r' → cs.head? ≠ some '\n') :
    lines (c :: cs) = [] :: lines cs := by
  rw [lines_unpaired h, if_pos hc]

theorem lines_lineFeed (cs : List Char) : lines ('\n' :: cs) = [] :: lines cs :=
  lines_lineEnd (by decide) fun h => absurd h (by decide)

/-- Before a character other than a carriage return, only the lines count that follow. -/
theorem lines_cons_congr (hc : c ≠ '\r') (h : lines x = lines y) :
    lines (c :: x) = lines (c :: y) := by
  rw [lines_unpaired fun h => absurd h hc, lines_unpaired fun h => absurd h hc, h]

theorem ne_return_of_isLineEnd (hc : isLineEnd c = false) : c ≠ '\r' := by
  rintro rfl
  exact absurd hc (by decide)

/-- A character that ends no line belongs to the first line. -/
theorem lines_cons (hc : isLineEnd c = false) {l : List Char} {ls : List (List Char)}
    (h : lines cs = l :: ls) : lines (c :: cs) = (c :: l) :: ls := by
  rw [lines_unpaired fun h => absurd h (ne_return_of_isLineEnd hc), hc, if_neg Bool.false_ne_true,
    h]
  rfl

theorem lines_singleton (hc : isLineEnd c = false) : lines [c] = [[c]] := by
  rw [lines_unpaired fun h => absurd h (ne_return_of_isLineEnd hc), hc]
  rfl

/-- A text without an end of line is one line. -/
theorem lines_inline (h : ∀ c ∈ cs, isLineEnd c = false) (hne : cs ≠ []) : lines cs = [cs] := by
  induction cs with
  | nil => exact absurd rfl hne
  | cons c cs ih =>
    rw [List.forall_mem_cons] at h
    cases cs with
    | nil => exact lines_singleton h.1
    | cons d ds => exact lines_cons h.1 (ih h.2 (List.cons_ne_nil d ds))

/-- A text without an end of line stands in the first line. -/
theorem lines_append (h : ∀ c ∈ x, isLineEnd c = false) {l : List Char} {ls : List (List Char)}
    (hy : lines y = l :: ls) : lines (x ++ y) = (x ++ l) :: ls := by
  induction x with
  | nil => exact hy
  | cons c x ih =>
    rw [List.forall_mem_cons] at h
    exact lines_cons h.1 (ih h.2)

/-- An end of line comes before the lines of what follows, apart from a line feed that belongs to
the end. -/
theorem exists_lines_ending {t : List Char} (ht : IsEnding t) (y : List Char) :
    ∃ z, (z = y ∨ y = '\n' :: z) ∧ lines (t ++ y) = [] :: lines z := by
  obtain rfl | ⟨c, hc, rfl⟩ := ht
  · exact ⟨y, .inl rfl, lines_pair y⟩
  · by_cases h : c = '\r' → y.head? ≠ some '\n'
    · exact ⟨y, .inl rfl, lines_lineEnd hc h⟩
    · simp only [Classical.not_imp, not_not] at h
      obtain ⟨rfl, hhead⟩ := h
      obtain ⟨z, rfl⟩ := List.head?_eq_some_iff.1 hhead
      exact ⟨z, .inr rfl, lines_pair z⟩

/-- What is made of the lines of a text, if nothing is made of an empty line, is made of its first
line and of the rest. -/
theorem filterMap_lines {α : Type} {f : List Char → Option α} (hf : f [] = none) {t : List Char}
    (hx : ∀ c ∈ x, isLineEnd c = false) (ht : IsEnding t) (y : List Char) :
    (lines (x ++ (t ++ y))).filterMap f = (f x).toList ++ (lines y).filterMap f := by
  obtain ⟨z, hz, hlines⟩ := exists_lines_ending ht y
  have hrest : (lines z).filterMap f = (lines y).filterMap f := by
    obtain rfl | rfl := hz
    · rfl
    · rw [lines_lineFeed, List.filterMap_cons_none hf]
  rw [lines_append hx hlines, List.append_nil, List.filterMap_eq_flatMap_toList, List.flatMap_cons,
    ← List.filterMap_eq_flatMap_toList, hrest]

/-- Of a last line without an end is made what is made of the text. -/
theorem filterMap_lines_inline {α : Type} {f : List Char → Option α} (hf : f [] = none)
    (hx : ∀ c ∈ x, isLineEnd c = false) : (lines x).filterMap f = (f x).toList := by
  by_cases hne : x = []
  · rw [hne, hf]
    rfl
  · rw [lines_inline hx hne, List.filterMap_eq_flatMap_toList, List.flatMap_singleton]

/-- **The lines stay the same if they are ended by line feeds.** -/
theorem lines_universalNewlines (cs : List Char) : lines (universalNewlines cs) = lines cs := by
  fun_induction universalNewlines cs with
  | case1 => rfl
  | case2 cs ih => rw [lines_lineFeed, lines_pair, ih]
  | case3 c cs hpair ih =>
    by_cases hc : c = '\r'
    · subst hc
      rw [if_pos rfl, lines_lineFeed, ih, lines_lineEnd (by decide)]
      rintro - hhead
      obtain ⟨ds, rfl⟩ := List.head?_eq_some_iff.1 hhead
      exact hpair ds rfl rfl
    · rw [if_neg hc]
      exact lines_cons_congr hc ih

end Text
end WorkflowKit
