/-
# Outcomes

What is known of a computation that may fail: what holds of its result, and of the fault that it
fails with.  Both follow from the parts of the computation, one after the other (`Yields.bind`).

Two computations agree if they have the same result or both fail, for whatever reasons.  This
follows from their parts as well (`Agree.bind`).
-/

namespace WorkflowKit

/-- What a computation results in satisfies `post`, and what it fails with satisfies `fault`. -/
def Yields {ε α : Type} (fault : ε → Prop) (post : α → Prop) : Except ε α → Prop
  | .ok a => post a
  | .error e => fault e

namespace Yields

variable {ε δ α β : Type} {fault : ε → Prop} {other : δ → Prop} {post : α → Prop}
  {goal : β → Prop} {x : Except ε α}

/-- What is known of a result may be weakened. -/
theorem mono {weak : α → Prop} (hx : Yields fault post x) (h : ∀ a, post a → weak a) :
    Yields fault weak x := by
  cases x with
  | ok a => exact h a hx
  | error e => exact hx

/-- A computation in two steps: the second one may rely on what holds of the result of the first. -/
theorem bind {f : α → Except ε β} (hx : Yields fault post x)
    (hf : ∀ a, post a → Yields fault goal (f a)) : Yields fault goal (x >>= f) := by
  cases x with
  | ok a => exact hf a hx
  | error e => exact hx

/-- A choice between two computations. -/
theorem ite {p : Prop} [Decidable p] {y : Except ε α} (hx : Yields fault post x)
    (hy : Yields fault post y) : Yields fault post (if p then x else y) := by
  split
  · exact hx
  · exact hy

/-- A result that is changed. -/
theorem map {f : α → β} (hx : Yields fault post x) (hf : ∀ a, post a → goal (f a)) :
    Yields fault goal (f <$> x) := by
  cases x with
  | ok a => exact hf a hx
  | error e => exact hx

/-- A fault that is translated. -/
theorem mapError {f : ε → δ} (hx : Yields fault post x) (hf : ∀ e, fault e → other (f e)) :
    Yields other post (x.mapError f) := by
  cases x with
  | ok a => exact hx
  | error e => exact hf e hx

/-- A computation along a list, of which each step keeps what holds of the result so far. -/
theorem foldlM {f : β → α → Except ε β} {as : List α} {b : β} (hb : goal b)
    (hf : ∀ b, goal b → ∀ a ∈ as, Yields fault goal (f b a)) :
    Yields fault goal (as.foldlM f b) := by
  induction as generalizing b with
  | nil => exact hb
  | cons a as ih =>
    rw [List.foldlM_cons]
    exact (hf b hb a List.mem_cons_self).bind fun c hc =>
      ih hc fun d hd a ha => hf d hd a (List.mem_cons_of_mem _ ha)

/-- A computation for each member of a list. -/
theorem mapM {f : α → Except ε β} {as : List α} (hf : ∀ a ∈ as, Yields fault goal (f a)) :
    Yields fault (fun bs => ∀ b ∈ bs, goal b) (as.mapM f) := by
  induction as with
  | nil => exact fun b hb => nomatch hb
  | cons a as ih =>
    rw [List.mapM_cons]
    refine (hf a List.mem_cons_self).bind fun b hb => ?_
    refine (ih fun a ha => hf a (List.mem_cons_of_mem _ ha)).bind fun bs hbs => ?_
    exact List.forall_mem_cons.2 ⟨hb, hbs⟩

/-- What is known of a fault that occurred. -/
theorem error_of (hx : Yields fault post x) {e : ε} (h : x = .error e) : fault e := by
  rw [h] at hx
  exact hx

/-- What is known of a result that was found. -/
theorem ok_of (hx : Yields fault post x) {a : α} (h : x = .ok a) : post a := by
  rw [h] at hx
  exact hx

/-- A computation that cannot fail has a result. -/
theorem exists_ok (hx : Yields (fun _ => False) post x) : ∃ a, x = .ok a ∧ post a := by
  cases x with
  | ok a => exact ⟨a, rfl, hx⟩
  | error e => exact hx.elim

end Yields

/-- Two computations have the same result, or both fail. -/
def Agree {ε δ α : Type} (x : Except ε α) (y : Except δ α) : Prop := x.toOption = y.toOption

namespace Agree

variable {ε δ α β : Type} {x : Except ε α} {y : Except δ α}

/-- Computations in two steps agree if their first steps do, and their second ones from any result.
-/
theorem bind {f : α → Except ε β} {g : α → Except δ β} (h : Agree x y)
    (hfg : ∀ a, Agree (f a) (g a)) : Agree (x >>= f) (y >>= g) := by
  cases x with
  | ok a =>
    cases y with
    | ok b =>
      obtain rfl : a = b := Option.some.inj h
      exact hfg a
    | error d => cases h
  | error e =>
    cases y with
    | ok b => cases h
    | error d => rfl

/-- Computations that agree still do when their results are changed. -/
theorem map (f : α → β) (h : Agree x y) : Agree (f <$> x) (f <$> y) := by
  cases x with
  | ok a =>
    cases y with
    | ok b =>
      obtain rfl : a = b := Option.some.inj h
      rfl
    | error d => cases h
  | error e =>
    cases y with
    | ok b => cases h
    | error d => rfl

end Agree
end WorkflowKit
