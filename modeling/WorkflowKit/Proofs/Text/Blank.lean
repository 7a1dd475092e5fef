/-
# Surrounding blanks and ends of lines

What trimming leaves of a text stands in it between blanks (`exists_eq_strip`).  To read a text with
its lines ended by line feeds, it may be cut wherever no line feed follows
(`universalNewlines_append`), and every other character is found again in the text as it was
(`exists_of_universalNewlines`).
-/

import Mathlib.Data.List.TakeWhile
import WorkflowKit.Text.Blank

namespace WorkflowKit
namespace Text

variable {c : Char} {cs x y z : List Char}

/-- A text is what is left of it without its surrounding blanks, with blanks around. -/
theorem exists_eq_strip (cs : List Char) : ∃ lead trail : List Char,
    (∀ c ∈ lead, isBlank c = true) ∧ (∀ c ∈ trail, isBlank c = true) ∧
      cs = lead ++ strip cs ++ trail := by
  refine ⟨cs.takeWhile isBlank, ((cs.dropWhile isBlank).reverse.takeWhile isBlank).reverse,
    fun c hc => List.mem_takeWhile_imp hc,
    fun c hc => List.mem_takeWhile_imp (List.mem_reverse.1 hc), ?_⟩
  rw [strip, trim, trimEnd, List.append_assoc, ← List.reverse_append,
    List.takeWhile_append_dropWhile, List.reverse_reverse, List.takeWhile_append_dropWhile]

/-- What is left begins with no blank. -/
theorem isBlank_of_head?_strip (h : (strip cs).head? = some c) : isBlank c = false := by
  obtain ⟨ds, hds⟩ : ∃ ds, cs.dropWhile isBlank = strip cs ++ ds :=
    ⟨((cs.dropWhile isBlank).reverse.takeWhile isBlank).reverse, by
      rw [strip, trim, trimEnd, ← List.reverse_append, List.takeWhile_append_dropWhile,
        List.reverse_reverse]⟩
  have hnot := List.head?_dropWhile_not isBlank cs
  rw [hds, List.head?_append, h] at hnot
  simpa using hnot

/-- What is left ends with no blank. -/
theorem isBlank_of_getLast?_strip (h : (strip cs).getLast? = some c) : isBlank c = false := by
  have hnot := List.head?_dropWhile_not isBlank (cs.dropWhile isBlank).reverse
  rw [strip, trim, trimEnd, List.getLast?_reverse] at h
  rw [h] at hnot
  simpa using hnot

/-- What stands between blanks is left, if it neither begins nor ends with a blank. -/
theorem strip_between {lead trail : List Char} (hlead : ∀ c ∈ lead, isBlank c = true)
    (htrail : ∀ c ∈ trail, isBlank c = true) (hhead : ∀ c ∈ cs.head?, isBlank c = false)
    (hlast : ∀ c ∈ cs.getLast?, isBlank c = false) : strip (lead ++ cs ++ trail) = cs := by
  have hdrop {ds : List Char} (hds : ∀ c ∈ ds.head?, isBlank c = false) :
      ds.dropWhile isBlank = ds := by
    cases ds with
    | nil => rfl
    | cons d ds => rw [List.dropWhile_cons_of_neg (by simp [hds d rfl])]
  rw [strip, trim, trimEnd, List.append_assoc, List.dropWhile_append_of_pos hlead]
  cases cs with
  | nil => rw [List.nil_append, List.dropWhile_eq_nil_iff.2 htrail]; rfl
  | cons c cs =>
    have hfirst : (c :: cs ++ trail).dropWhile isBlank = c :: cs ++ trail := hdrop hhead
    rw [hfirst, List.reverse_append,
      List.dropWhile_append_of_pos fun c hc => htrail c (List.mem_reverse.1 hc),
      hdrop (by rwa [List.head?_reverse]), List.reverse_reverse]

/-- Further blanks around a text are dropped with its own. -/
theorem strip_surrounded {lead trail : List Char} (hlead : ∀ c ∈ lead, isBlank c = true)
    (htrail : ∀ c ∈ trail, isBlank c = true) (cs : List Char) :
    strip (lead ++ (cs ++ trail)) = strip cs := by
  obtain ⟨lead', trail', hlead', htrail', heq⟩ := exists_eq_strip cs
  have hsplit : lead ++ (cs ++ trail) = (lead ++ lead') ++ strip cs ++ (trail' ++ trail) :=
    calc lead ++ (cs ++ trail) = lead ++ (lead' ++ strip cs ++ trail' ++ trail) :=
          congrArg (fun ds => lead ++ (ds ++ trail)) heq
      _ = (lead ++ lead') ++ strip cs ++ (trail' ++ trail) := by simp
  rw [hsplit]
  exact strip_between (fun c hc => (List.mem_append.1 hc).elim (hlead c) (hlead' c))
    (fun c hc => (List.mem_append.1 hc).elim (htrail' c) (htrail c))
    (fun c hc => isBlank_of_head?_strip hc) (fun c hc => isBlank_of_getLast?_strip hc)

/-- What is left begins with the first character that is no blank. -/
theorem head?_strip {lead : List Char} (hlead : ∀ c ∈ lead, isBlank c = true)
    (hc : isBlank c = false) (cs : List Char) : (strip (lead ++ c :: cs)).head? = some c := by
  rw [strip, trim, trimEnd, List.dropWhile_append_of_pos hlead,
    List.dropWhile_cons_of_neg (by simp [hc]), List.reverse_cons, List.dropWhile_append,
    List.head?_reverse]
  split
  · simp [hc]
  · simp

/-! ### Ends of lines -/

attribute [local simp] universalNewlines

theorem universalNewlines_cons (hc : c ≠ '\r') (cs : List Char) :
    universalNewlines (c :: cs) = c :: universalNewlines cs := by
  simp [hc]

theorem universalNewlines_carriageReturn (h : cs.head? ≠ some '\n') :
    universalNewlines ('\r' :: cs) = '\n' :: universalNewlines cs := by
  rw [universalNewlines, if_pos rfl]
  rintro ds - rfl
  exact h rfl

theorem universalNewlines_of_notMem (h : '\r' ∉ cs) : universalNewlines cs = cs := by
  induction cs with
  | nil => rfl
  | cons c cs ih =>
    rw [List.mem_cons, not_or] at h
    rw [universalNewlines_cons (Ne.symm h.1), ih h.2]

/-- Wherever a text is cut, no more than a line feed is lost of what follows. -/
theorem exists_universalNewlines_append (x y : List Char) : ∃ z, (z = y ∨ y = '\n' :: z) ∧
    universalNewlines (x ++ y) = universalNewlines x ++ universalNewlines z := by
  fun_induction universalNewlines x with
  | case1 => exact ⟨y, .inl rfl, rfl⟩
  | case2 x ih =>
    obtain ⟨z, hz, heq⟩ := ih
    exact ⟨z, hz, by rw [List.cons_append, List.cons_append, universalNewlines, heq]; rfl⟩
  | case3 c x hx ih =>
    by_cases hc : c = '\r'
    · subst hc
      by_cases hfeed : (x ++ y).head? = some '\n'
      · cases x with
        | nil =>
          obtain ⟨z, rfl⟩ := List.head?_eq_some_iff.1 hfeed
          exact ⟨z, .inr rfl, rfl⟩
        | cons d x =>
          cases hfeed
          exact absurd rfl (hx x rfl)
      · obtain ⟨z, hz, heq⟩ := ih
        exact ⟨z, hz, by rw [List.cons_append, universalNewlines_carriageReturn hfeed, heq]; rfl⟩
    · obtain ⟨z, hz, heq⟩ := ih
      refine ⟨z, hz, ?_⟩
      rw [List.cons_append, universalNewlines_cons hc, heq, if_neg hc, List.cons_append]

/-- A text may be cut where no line feed follows. -/
theorem universalNewlines_append (h : y.head? ≠ some '\n') :
    universalNewlines (x ++ y) = universalNewlines x ++ universalNewlines y := by
  obtain ⟨z, rfl | rfl, heq⟩ := exists_universalNewlines_append x y
  · exact heq
  · exact absurd rfl h

/-- The first character of a text with its lines ended by line feeds. -/
theorem universalNewlines_eq_cons (h : universalNewlines x = c :: y) :
    (∃ z, x = c :: z ∧ universalNewlines z = y) ∨
      c = '\n' ∧ ∃ z, (x = '\r' :: z ∨ x = '\r' :: '\n' :: z) ∧ universalNewlines z = y := by
  fun_cases universalNewlines x with
  | case1 => cases h
  | case2 z =>
    rw [universalNewlines] at h
    cases h
    exact .inr ⟨rfl, z, .inr rfl, rfl⟩
  | case3 d z hz =>
    rw [universalNewlines] at h
    · split at h
      · next hd =>
        cases h
        exact .inr ⟨rfl, z, .inl (by rw [hd]), rfl⟩
      · cases h
        exact .inl ⟨z, rfl, rfl⟩
    · exact hz

/-- What stands before and behind a character that ends no line. -/
theorem exists_of_universalNewlines (hc : c ≠ '\n') (h : universalNewlines x = y ++ c :: z) :
    ∃ y₀ z₀, x = y₀ ++ c :: z₀ ∧ universalNewlines y₀ = y ∧ universalNewlines z₀ = z := by
  fun_induction universalNewlines x generalizing y with
  | case1 => simp at h
  | case2 x ih =>
    cases y with
    | nil => exact absurd (List.cons.inj h).1.symm hc
    | cons d y =>
      obtain ⟨rfl, heq⟩ := List.cons.inj h
      obtain ⟨y₀, z₀, hx, hy, hz⟩ := ih heq
      exact ⟨'\r' :: '\n' :: y₀, z₀, by rw [hx]; rfl, by rw [universalNewlines, hy], hz⟩
  | case3 d x hx ih =>
    cases y with
    | nil =>
      obtain ⟨hd, hz⟩ := List.cons.inj h
      have hdc : d = c := by
        split at hd
        · exact absurd hd.symm hc
        · exact hd
      exact ⟨[], x, by rw [hdc]; rfl, rfl, hz⟩
    | cons e y =>
      obtain ⟨rfl, heq⟩ := List.cons.inj h
      obtain ⟨y₀, z₀, hsplit, hy, hz⟩ := ih heq
      refine ⟨d :: y₀, z₀, by rw [hsplit]; rfl, ?_, hz⟩
      rw [universalNewlines, hy]
      -- The carriage return before the cut ends a line by itself, as the character behind it is no
      -- line feed.
      rintro ds hd rfl
      exact hx (ds ++ c :: z₀) hd hsplit

end Text
end WorkflowKit
