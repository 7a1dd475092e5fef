/-
# Several names for one attribute

An expression may call an attribute of the trigger by its name alone or behind `trigger.`, and the
correlation token by either of two names.  Trees that differ in this only (`Expr.Synonymous`) have
the same value for every trigger, or none of them has a value (`agree_eval`).

The reasons why there is no value may differ: `name('a')` is no call of a method, while
`trigger.name('a')` is one, but of a method that does not exist (`eval_call_tree`).
-/

import WorkflowKit.Proofs.Expression.Verdict
import WorkflowKit.Proofs.Outcome

namespace WorkflowKit
namespace Expression

/-- An attribute by the first of its names. -/
def Attribute.canonical : Attribute → Attribute
  | camelToken => snakeToken
  | a => a

theorem Attribute.ofTrigger_canonical (t : Trigger) (a : Attribute) :
    a.canonical.ofTrigger t = a.ofTrigger t := by
  cases a <;> rfl

end Expression

open Expression in
/-- Trees that differ at most in how they call attributes of the trigger. -/
inductive Expr.Synonymous : Expr → Expr → Prop
  /-- The same tree. -/
  | refl (e : Expr) : Synonymous e e
  /-- The same attribute, each time with or without `trigger.`. -/
  | subject {s s' : Subject} (same : s.attr.canonical = s'.attr.canonical) :
    Synonymous s.tree s'.tree
  /-- Operands of `and`. -/
  | all {es es' : List Expr} (operands : List.Forall₂ Synonymous es es') :
    Synonymous (.all es) (.all es')
  /-- Operands of `or`. -/
  | any {es es' : List Expr} (operands : List.Forall₂ Synonymous es es') :
    Synonymous (.any es) (.any es')
  /-- An operand behind a sign. -/
  | signed (sign : Sign) {e e' : Expr} (operand : Synonymous e e') :
    Synonymous (.signed sign e) (.signed sign e')
  /-- Operands of a chain. -/
  | compare {e e' : Expr} {rest rest' : List (Comparison × Expr)} (first : Synonymous e e')
    (comparisons : rest.map Prod.fst = rest'.map Prod.fst)
    (operands : List.Forall₂ Synonymous (rest.map Prod.snd) (rest'.map Prod.snd)) :
    Synonymous (.compare e rest) (.compare e' rest')
  /-- Items of a list. -/
  | list {es es' : List Expr} (items : List.Forall₂ Synonymous es es') :
    Synonymous (.list es) (.list es')
  /-- Items of a tuple. -/
  | tuple {es es' : List Expr} (items : List.Forall₂ Synonymous es es') :
    Synonymous (.tuple es) (.tuple es')
  /-- What an attribute is looked up in. -/
  | member {e e' : Expr} (target : Synonymous e e') (name : String) :
    Synonymous (.member e name) (.member e' name)
  /-- What is called, and with what. -/
  | call {f f' : Expr} {es es' ns ns' : List Expr} (function : Synonymous f f')
    (arguments : List.Forall₂ Synonymous es es') (named : List.Forall₂ Synonymous ns ns') :
    Synonymous (.call f es ns) (.call f' es' ns')
  /-- Parts of a form without a value. -/
  | other (form : Form) {es es' : List Expr} (parts : List.Forall₂ Synonymous es es') :
    Synonymous (.other form es) (.other form es')

namespace Expression

open Evaluator (attributeVariables optionalText)

variable {t : Trigger} {vars : Variables}

/-- No attribute has the name of a method. -/
theorem method?_id (a : Attribute) : method? a.id = none := by
  cases a <;> decide

/-- Attributes cannot be called. -/
theorem eval_call_tree (s : Subject) (es ns : List Expr) :
    (eval vars (.call s.tree es ns)).toOption = none := by
  obtain ⟨a, qualified⟩ := s
  cases qualified with
  | false => rfl
  | true =>
    cases ns with
    | nil =>
      show (eval vars (.call (.member (.name "trigger") a.id) es [])).toOption = none
      rw [eval, method?_id]
      rfl
    | cons n ns => rfl

theorem agree_callMethod (name : String) (m : Method) (target : Value)
    {args args' : Except Fault (List Value)} (h : Agree args args') :
    Agree (callMethod name m target args) (callMethod name m target args') := by
  cases target with
  | text s => exact h.bind fun _ => rfl
  | _ => rfl

/-- A method may be called where targets and arguments agree. -/
theorem agree_call {e e' : Expr} {es es' ns ns' : List Expr} (name : String)
    (target : Agree (eval vars e) (eval vars e'))
    (arguments : Agree (evalItems vars es) (evalItems vars es'))
    (named : List.Forall₂ Expr.Synonymous ns ns') :
    Agree (eval vars (.call (.member e name) es ns))
      (eval vars (.call (.member e' name) es' ns')) := by
  cases named with
  | nil =>
    rw [eval, eval]
    split
    · rfl
    · next m _ => exact target.bind fun v => agree_callMethod name m v arguments
  | cons => rfl

mutual

/-- **Trees that call attributes differently have the same value, or none has a value.** -/
theorem agree_eval {e e' : Expr} (h : e.Synonymous e') :
    Agree (eval (attributeVariables t) e) (eval (attributeVariables t) e') := by
  cases h with
  | refl => rfl
  | @subject s s' same =>
    rw [s.eval_tree, s'.eval_tree, ← Attribute.ofTrigger_canonical, same,
      Attribute.ofTrigger_canonical]
    rfl
  | all h => exact (agree_evalAll h).map _
  | any h => exact (agree_evalAny h).map _
  | signed sign h => exact (agree_eval h).bind fun _ => rfl
  | compare h hcs hes => exact (agree_eval h).bind fun left => (agree_evalChain left hcs hes).map _
  | list h | tuple h => exact (agree_evalItems h).map _
  | member h => exact (agree_eval h).bind fun _ => rfl
  | @call f f' es es' ns ns' hf hes hns =>
    cases hf with
    | subject => exact (eval_call_tree _ es ns).trans (eval_call_tree _ es' ns').symm
    | member h name => exact agree_call name (agree_eval h) (agree_evalItems hes) hns
    | refl =>
      cases f with
      | member e name => exact agree_call name rfl (agree_evalItems hes) hns
      | _ => rfl
    | _ => rfl
  | other => rfl
termination_by sizeOf e

theorem agree_evalAll {es es' : List Expr} (h : List.Forall₂ Expr.Synonymous es es') :
    Agree (evalAll (attributeVariables t) es) (evalAll (attributeVariables t) es') := by
  cases h with
  | nil => rfl
  | cons h hs =>
    refine (agree_eval h).bind fun v => ?_
    cases v.isTruthy with
    | true => exact agree_evalAll hs
    | false => rfl
termination_by sizeOf es

theorem agree_evalAny {es es' : List Expr} (h : List.Forall₂ Expr.Synonymous es es') :
    Agree (evalAny (attributeVariables t) es) (evalAny (attributeVariables t) es') := by
  cases h with
  | nil => rfl
  | cons h hs =>
    refine (agree_eval h).bind fun v => ?_
    cases v.isTruthy with
    | true => rfl
    | false => exact agree_evalAny hs
termination_by sizeOf es

theorem agree_evalChain (left : Value) {rest rest' : List (Comparison × Expr)}
    (hcs : rest.map Prod.fst = rest'.map Prod.fst)
    (hes : List.Forall₂ Expr.Synonymous (rest.map Prod.snd) (rest'.map Prod.snd)) :
    Agree (evalChain (attributeVariables t) left rest)
      (evalChain (attributeVariables t) left rest') := by
  match rest, rest' with
  | [], [] => rfl
  | [], _ :: _ | _ :: _, [] => cases hes
  | (c, e) :: rest, (c', e') :: rest' =>
    rw [List.map_cons, List.map_cons, List.cons.injEq] at hcs
    obtain ⟨rfl : c = c', hcs⟩ := hcs
    cases hes with
    | cons h hes =>
      rw [evalChain, evalChain]
      split
      · rfl
      · refine (agree_eval h).bind fun right => Agree.bind rfl fun b => ?_
        cases b with
        | true => exact agree_evalChain right hcs hes
        | false => rfl
termination_by sizeOf rest

theorem agree_evalItems {es es' : List Expr} (h : List.Forall₂ Expr.Synonymous es es') :
    Agree (evalItems (attributeVariables t) es) (evalItems (attributeVariables t) es') := by
  cases h with
  | nil => rfl
  | cons h hs =>
    exact (agree_eval h).bind fun v => (agree_evalItems hs).bind fun vs => rfl
termination_by sizeOf es

end

end Expression
end WorkflowKit
