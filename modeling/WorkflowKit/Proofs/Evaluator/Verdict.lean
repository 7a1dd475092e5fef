/-
# Verdicts

What an evaluator says of an expression: that it matches, that it does not, or nothing.  It says
nothing exactly of values that are no truth values and cannot be shown (`fault?_eq_none`).  Such
values there are: an integer that is written in base 16 may have any number of digits
(`value?_hexadecimal`).
-/

import WorkflowKit.Evaluator
import WorkflowKit.Proofs.Expression.Hexadecimal
import WorkflowKit.Proofs.Value.Text

namespace WorkflowKit
namespace Evaluator

variable {e : Evaluator} {source : Text} {context : Context}

/-- What an evaluator says of an expression, or why it says nothing. -/
def verdict (e : Evaluator) (source : Text) (context : Context) : Except Number.DigitFault Bool :=
  match e.fault? source context with
  | some f => .error f
  | none => .ok (e.accepts source context)

/-- A value that is a truth value, or can be shown. -/
def IsTold (v : Value) : Prop := (∃ b, v = .bool b) ∨ v.holdsLongInt = false

theorem fault?_eq_none :
    e.fault? source context = none ↔ ∀ v, e.value? source context = some v → IsTold v := by
  rw [fault?]
  split
  · next h => simp [h]
  · next b h => simp [h, IsTold]
  · next v hnot h =>
    have hbool : ¬ ∃ b, v = .bool b := fun ⟨b, hb⟩ => hnot b hb
    rw [h]
    simp only [Option.some.injEq, forall_eq', IsTold, hbool, false_or]
    simp

/-- An expression that matches has been told. -/
theorem fault?_of_accepts (h : e.accepts source context = true) :
    e.fault? source context = none := by
  refine fault?_eq_none.2 fun v hv => .inl ?_
  rw [accepts, hv] at h
  cases v with
  | bool b => exact ⟨b, rfl⟩
  | _ => cases h

theorem value?_hexadecimal (t : Trigger) (n : Nat) :
    forAttributes.value? ↑(String.ofList (Expression.hexadecimal (n + 1))) (.trigger t) =
      some (.int (16 ^ (n + 1) - 1 : Nat)) := by
  show valueWith? _ _ = _
  rw [valueWith?, Text.toString?_ofString, Option.bind_eq_bind, Option.bind_some,
    Expression.evaluate_hexadecimal]
  rfl

end Evaluator
end WorkflowKit
