/-
# Moving through a YAML text

What a place knows of the text: the character there, and what is left after moving on.
-/

import WorkflowKit.Yaml.Cursor

namespace WorkflowKit
namespace Yaml
namespace Cursor

variable {c : Cursor} {ch : Char} {cs : List Char}

/-- The character at a place is the first that is left. -/
theorem peek_of_rest (h : c.rest = ch :: cs) : c.peek = ch := by
  rw [peek, h]
  rfl

/-- What does not hold of the first character that is left does not hold at the place, unless it
holds of the end of the text. -/
theorem of_peek {f : Char → Bool} (h : ∀ d ∈ c.rest.head?, f d = false)
    (hend : f endMark = false) : f c.peek = false := by
  rw [peek]
  cases hrest : c.rest with
  | nil => exact hend
  | cons d ds => exact h d (by rw [hrest]; rfl)

/-- What holds of the first character that is left. -/
theorem mem_head?_of_rest (h : c.rest = ch :: cs) {p : Char → Prop} (hch : p ch) :
    ∀ d ∈ c.rest.head?, p d := by
  rw [h]
  rintro _ ⟨⟩
  exact hch

/-- The next character is the second that is left. -/
theorem peekAt_one_of_rest {d : Char} (h : c.rest = ch :: d :: cs) : c.peekAt 1 = d := by
  rw [peekAt, h]
  rfl

/-- Nothing is taken where the first character is not of the kind. -/
theorem takeWhile_of_not {f : Char → Bool} (h : ∀ d ∈ c.rest.head?, f d = false) :
    c.takeWhile f = ([], c) := by
  have hnil : c.rest.takeWhile f = [] := by
    cases hrest : c.rest with
    | nil => rfl
    | cons d ds =>
      rw [List.takeWhile_cons, h d (by rw [hrest]; rfl)]
      rfl
  rw [takeWhile, hnil]
  rfl

/-- One step forward leaves the rest of what was left. -/
@[simp]
theorem rest_next (c : Cursor) : c.next.rest = c.rest.tail := by
  rw [next]
  split
  · next hnil => rw [hnil, List.tail_nil]
  · next ch rest hcons =>
    have htail : c.rest.tail = rest := by rw [hcons, List.tail_cons]
    rw [htail]
    dsimp only
    split <;> rfl

/-- The same where the first character is known. -/
theorem next_rest (h : c.rest = ch :: cs) : c.next.rest = cs := by
  rw [rest_next, h, List.tail_cons]

/-- What is left begins with the character at the place. -/
theorem rest_of_peek (h : c.peek = ch) (hch : ch ≠ endMark) : c.rest = ch :: c.next.rest := by
  rw [peek] at h
  cases hrest : c.rest with
  | nil => exact absurd (by rw [← h, hrest]; rfl) hch
  | cons d ds =>
    rw [hrest] at h
    rw [next_rest hrest]
    exact congrArg (· :: ds) h

/-- Several steps forward. -/
@[simp]
theorem rest_skip (n : Nat) (c : Cursor) : (c.skip n).rest = c.rest.drop n := by
  induction n generalizing c with
  | zero => rfl
  | succ n ih => rw [skip, ih, rest_next, List.drop_tail]

/-- Behind characters of a kind. -/
@[simp]
theorem rest_takeWhile (f : Char → Bool) (c : Cursor) :
    (c.takeWhile f).2.rest = c.rest.dropWhile f := by
  have hsplit := List.takeWhile_append_dropWhile (p := f) (l := c.rest)
  calc (c.takeWhile f).2.rest = c.rest.drop (c.rest.takeWhile f).length := rest_skip ..
    _ = (c.rest.takeWhile f ++ c.rest.dropWhile f).drop (c.rest.takeWhile f).length := by
      rw [hsplit]
    _ = c.rest.dropWhile f := List.drop_left ..

/-- One step forward leaves one character less. -/
theorem left_next (h : c.rest = ch :: cs) : c.left = c.next.left + 1 := by
  rw [c.left_eq, c.next.left_eq, next_rest h, h, List.length_cons]

/-- Where the first character is of the kind it is taken, and so on behind it. -/
theorem takeWhile_of_pos {f : Char → Bool} (h : c.rest = ch :: cs) (hch : f ch = true)
    (hcs : c.next.rest = cs) :
    c.takeWhile f = (ch :: (c.next.takeWhile f).1, (c.next.takeWhile f).2) := by
  rw [takeWhile, h, List.takeWhile_cons, hch]
  simp only [takeWhile, hcs]
  rfl

end Cursor
end Yaml
end WorkflowKit
