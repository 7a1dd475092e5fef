/-
# Variables with other names

A tree whose variables get other names has the outcome that it had, if every variable has under its
new name what it had under the old one (`eval_rename`).  The variables need not have the same table
of values before and after, so the names may also stay and the table change.

The tree keeps its shape.  So it comes to as many levels as before, and limits of depth are met at
the same places (`overrun?_rename`).
-/

import WorkflowKit.Expression.Source

namespace WorkflowKit
namespace Expr

variable (ρ : String → String)

mutual

/-- A tree with other names for its variables. -/
def rename : Expr → Expr
  | constant c => constant c
  | name x => name (ρ x)
  | all es => all (renameAll es)
  | any es => any (renameAll es)
  | signed s e => signed s e.rename
  | compare e rest => compare e.rename (renameChain rest)
  | list es => list (renameAll es)
  | tuple es => tuple (renameAll es)
  | member e x => member e.rename x
  | call f es ns => call f.rename (renameAll es) (renameAll ns)
  | other form es => other form (renameAll es)

/-- Trees with other names for their variables. -/
def renameAll : List Expr → List Expr
  | [] => []
  | e :: es => e.rename :: renameAll es

/-- The operands of a chain with other names for their variables. -/
def renameChain : List (Expression.Comparison × Expr) → List (Expression.Comparison × Expr)
  | [] => []
  | (c, e) :: rest => (c, e.rename) :: renameChain rest

end

mutual

/-- A tree is as high as before. -/
@[simp]
theorem height_rename (e : Expr) : (e.rename ρ).height = e.height := by
  cases e with
  | constant | name => rfl
  | all es | any es | list es | tuple es | other form es =>
    rw [rename, height, height, heightOf_renameAll]
  | signed s e | member e x => rw [rename, height, height, height_rename]
  | compare e rest => rw [rename, height, height, height_rename, heightOfChain_renameChain]
  | call f es ns =>
    rw [rename, height, height, height_rename, heightOf_renameAll, heightOf_renameAll]

/-- So are several trees. -/
theorem heightOf_renameAll (es : List Expr) : heightOf (renameAll ρ es) = heightOf es := by
  cases es with
  | nil => rfl
  | cons e es => rw [renameAll, heightOf, heightOf, height_rename, heightOf_renameAll]

/-- So are the operands of a chain. -/
theorem heightOfChain_renameChain (rest : List (Expression.Comparison × Expr)) :
    heightOfChain (renameChain ρ rest) = heightOfChain rest := by
  match rest with
  | [] => rfl
  | (c, e) :: rest =>
    rw [renameChain, heightOfChain, heightOfChain, height_rename, heightOfChain_renameChain]

end

end Expr

namespace Expression

open WorkflowKit.Expr (renameAll renameChain namesOf namesOfChain)

variable {ρ : String → String} {vars vars' : Variables}

/-- Some variables have under their new names what they had under the old ones. -/
def Carries (ρ : String → String) (vars vars' : Variables) (names : List String) : Prop :=
  ∀ x ∈ names, eval vars' (.name (ρ x)) = eval vars (.name x)

/-- What holds of the variables of two parts holds of those of the first. -/
theorem Carries.left {names names' : List String} (h : Carries ρ vars vars' (names ++ names')) :
    Carries ρ vars vars' names :=
  fun x hx => h x (List.mem_append_left _ hx)

/-- And of those of the second. -/
theorem Carries.right {names names' : List String} (h : Carries ρ vars vars' (names ++ names')) :
    Carries ρ vars vars' names' :=
  fun x hx => h x (List.mem_append_right _ hx)

mutual

/-- **A tree with other names for its variables has the same outcome.** -/
theorem eval_rename (e : Expr) (h : Carries ρ vars vars' e.names) :
    eval vars' (e.rename ρ) = eval vars e := by
  cases e with
  | constant c => rfl
  | name x => exact h x (List.mem_singleton_self x)
  | all es => rw [Expr.rename, eval, eval, evalAll_rename es h]
  | any es => rw [Expr.rename, eval, eval, evalAny_rename es h]
  | list es => rw [Expr.rename, eval, eval, evalItems_rename es h]
  | tuple es => rw [Expr.rename, eval, eval, evalItems_rename es h]
  | signed s e => rw [Expr.rename, eval, eval, eval_rename e h]
  | compare e rest =>
    rw [Expr.rename, eval, eval, eval_rename e h.left]
    simp only [evalChain_rename _ rest h.right]
  | member e x => rw [Expr.rename, eval, eval, eval_rename e h]
  | call f es ns =>
    cases f with
    | member e x =>
      cases ns with
      | nil =>
        rw [Expr.rename, Expr.rename, renameAll, eval, eval, eval_rename e h.left.left,
          evalItems_rename es h.left.right]
      | cons n ns => rfl
    | _ => rfl
  | other form es => rfl

/-- A conjunction has the outcome that it had. -/
theorem evalAll_rename (es : List Expr) (h : Carries ρ vars vars' (namesOf es)) :
    evalAll vars' (renameAll ρ es) = evalAll vars es := by
  cases es with
  | nil => rfl
  | cons e es => rw [renameAll, evalAll, evalAll, eval_rename e h.left, evalAll_rename es h.right]

/-- A disjunction has the outcome that it had. -/
theorem evalAny_rename (es : List Expr) (h : Carries ρ vars vars' (namesOf es)) :
    evalAny vars' (renameAll ρ es) = evalAny vars es := by
  cases es with
  | nil => rfl
  | cons e es => rw [renameAll, evalAny, evalAny, eval_rename e h.left, evalAny_rename es h.right]

/-- A chain has the outcome that it had, from any value of its first operand. -/
theorem evalChain_rename (left : Value) (rest : List (Comparison × Expr))
    (h : Carries ρ vars vars' (namesOfChain rest)) :
    evalChain vars' left (renameChain ρ rest) = evalChain vars left rest := by
  match rest with
  | [] => rfl
  | (c, e) :: rest =>
    rw [renameChain, evalChain, evalChain, eval_rename e h.left]
    simp only [evalChain_rename _ rest h.right]

/-- The items of a display have the outcomes that they had. -/
theorem evalItems_rename (es : List Expr) (h : Carries ρ vars vars' (namesOf es)) :
    evalItems vars' (renameAll ρ es) = evalItems vars es := by
  cases es with
  | nil => rfl
  | cons e es =>
    rw [renameAll, evalItems, evalItems, eval_rename e h.left, evalItems_rename es h.right]

end

mutual

/-- **It comes to too many levels where it did before.** -/
theorem overrun?_rename (room : Nat) (e : Expr) (h : Carries ρ vars vars' e.names) :
    overrun? vars' room (e.rename ρ) = overrun? vars room e := by
  match room with
  | 0 => rw [overrun?, overrun?]
  | room + 1 =>
    cases e with
    | constant | name | other => rfl
    | all es | any es =>
      rw [Expr.rename, overrun?, overrun?, overrunOperands?_rename _ _ es h]
    | list es | tuple es => rw [Expr.rename, overrun?, overrun?, overrunItems?_rename _ es h]
    | signed s e => rw [Expr.rename, overrun?, overrun?, overrun?_rename _ e h]
    | compare e rest =>
      rw [Expr.rename, overrun?, overrun?, overrun?_rename _ e h.left, eval_rename e h.left]
      simp only [overrunChain?_rename _ _ rest h.right]
    | member e x => rw [Expr.rename, overrun?, overrun?, overrun?_rename _ e h]
    | call f es ns =>
      cases f with
      | member e x =>
        cases ns with
        | nil =>
          rw [Expr.rename, Expr.rename, renameAll, overrun?, overrun?,
            overrun?_rename _ e h.left.left, eval_rename e h.left.left,
            overrunItems?_rename _ es h.left.right]
        | cons n ns => rfl
      | _ => rfl

/-- The operands of a conjunction or disjunction meet the limit where they did: those that are not
evaluated still are not. -/
theorem overrunOperands?_rename (room : Nat) (going : Bool) (es : List Expr)
    (h : Carries ρ vars vars' (namesOf es)) :
    overrunOperands? vars' room going (renameAll ρ es) = overrunOperands? vars room going es := by
  cases es with
  | nil => rfl
  | cons e es =>
    rw [renameAll, overrunOperands?, overrunOperands?, overrun?_rename _ e h.left,
      eval_rename e h.left, overrunOperands?_rename _ _ es h.right]

/-- The operands of a chain meet the limit where they did. -/
theorem overrunChain?_rename (room : Nat) (left : Value) (rest : List (Comparison × Expr))
    (h : Carries ρ vars vars' (namesOfChain rest)) :
    overrunChain? vars' room left (renameChain ρ rest) = overrunChain? vars room left rest := by
  match rest with
  | [] => rfl
  | (c, e) :: rest =>
    rw [renameChain, overrunChain?, overrunChain?, overrun?_rename _ e h.left,
      eval_rename e h.left]
    simp only [overrunChain?_rename _ _ rest h.right]

/-- The items of a display meet the limit where they did. -/
theorem overrunItems?_rename (room : Nat) (es : List Expr)
    (h : Carries ρ vars vars' (namesOf es)) :
    overrunItems? vars' room (renameAll ρ es) = overrunItems? vars room es := by
  cases es with
  | nil => rfl
  | cons e es =>
    rw [renameAll, overrunItems?, overrunItems?, overrun?_rename _ e h.left,
      eval_rename e h.left, overrunItems?_rename _ es h.right]

end

/-- **Texts whose trees differ in the names of their variables have the same outcome.** -/
theorem evaluate_rename {s s' : String} {e : Expr} (hs : compile s = .ok e)
    (hs' : compile s' = .ok (e.rename ρ)) (h : Carries ρ vars vars' e.names) :
    evaluate vars' s' = evaluate vars s := by
  rw [evaluate, evaluate, hs, hs']
  simp only [bind, Except.bind, Expr.height_rename, overrun?_rename _ e h, eval_rename e h]

end Expression
end WorkflowKit
