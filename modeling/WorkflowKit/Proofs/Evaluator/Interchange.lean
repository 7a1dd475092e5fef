/-
# How an attribute is called does not matter

Expressions that differ only in the names by which they call attributes of the trigger match the
same triggers, and so do an expression about the name alone and the one with `trigger` in its place,
which the other evaluator reads (`verdict_interchange`).

The names do matter in one respect: `trigger.name` takes one level more than `name`, so one of two
expressions may come to too many levels where the other does not.  Renaming a variable takes no
level more.

Whether anything is said at all does not depend on the names, but on the value
(`not_forall_interchange`).
-/

import WorkflowKit.Proofs.Evaluator.Verdict
import WorkflowKit.Proofs.Expression.Renaming
import WorkflowKit.Proofs.Expression.Synonyms

namespace WorkflowKit

open Expression (Variables compile evaluate eval Subject)

/-- The trigger that an evaluator looks at. -/
def Context.trigger? : Context → Option Trigger
  | trigger t => some t
  | name s => some (Evaluator.nameOnly s)
  | other => none

namespace Evaluator

variable {s s' : String} {e e' : Expr} {vars : Variables} {c : Context} {t : Trigger}

/-- Something is said of truth values, and of what can be shown. -/
theorem exists_verdict_iff {E : Evaluator} {source : Text} :
    (∃ b, E.verdict source c = .ok b) ↔ ∀ v, E.value? source c = some v → IsTold v := by
  rw [verdict, ← fault?_eq_none]
  cases E.fault? source c <;> simp

/-- Expressions that have the same values are judged alike, be it by different evaluators or for
different triggers. -/
theorem verdict_congr {E E' : Evaluator} {source source' : Text} {c' : Context}
    (h : E.value? source c = E'.value? source' c') :
    E.verdict source c = E'.verdict source' c' := by
  rw [verdict, verdict, fault?, fault?, accepts, accepts, h]

theorem valueWith?_ofString (s : String) (vars : Variables) :
    valueWith? ↑s vars = (evaluate vars s).toOption := by
  rw [valueWith?, Text.toString?_ofString]
  rfl

theorem value?_forAttributes (s : String) (c : Context) :
    forAttributes.value? ↑s c =
      c.trigger?.bind fun t => (evaluate (attributeVariables t) s).toOption := by
  cases c with
  | trigger t => exact valueWith?_ofString s _
  | name n => exact valueWith?_ofString s _
  | other => rfl

theorem value?_forName (s : String) (c : Context) :
    forName.value? ↑s c =
      c.trigger?.bind fun t => (evaluate [("trigger", optionalText t.name)] s).toOption := by
  cases c with
  | trigger t => exact valueWith?_ofString s _
  | name n => exact valueWith?_ofString s _
  | other => rfl

/-- Whether an expression comes to too many levels. -/
def TooDeep (s : String) (c : Context) : Prop :=
  ∃ t ∈ c.trigger?, ∃ d, evaluate (attributeVariables t) s = .error (.depth d)

/-- An expression that does not come to too many levels has the value of its tree. -/
theorem evaluate_eq_eval (hs : compile s = .ok e) (h : ∀ d, evaluate vars s ≠ .error (.depth d)) :
    evaluate vars s = eval vars e := by
  rw [evaluate, hs] at h ⊢
  simp only [bind, Except.bind] at h ⊢
  split at h
  · next hheight =>
    rw [if_pos hheight]
    split at h
    · next f _ => exact absurd rfl (h f)
    · rfl
  · next hheight => rw [if_neg hheight]

/-- **How an attribute is called does not matter.**  First, of two expressions that call attributes
of the trigger differently the same is said, unless one of them comes to too many levels.  Second,
the same is said of an expression about the name alone and of the one with `trigger` in the place of
`name` by the evaluators that bind them.  Third, whether something is said depends on the value. -/
theorem verdict_interchange (hs : compile s = .ok e) (hs' : compile s' = .ok e') (c : Context) :
    (e.Synonymous e' → ¬ TooDeep s c → ¬ TooDeep s' c →
      forAttributes.verdict ↑s c = forAttributes.verdict ↑s' c) ∧
    (e' = e.rename (fun x => if x = "name" then "trigger" else x) → (∀ x ∈ e.names, x = "name") →
      forName.verdict ↑s' c = forAttributes.verdict ↑s c) ∧
    ((∃ b, forAttributes.verdict ↑s c = .ok b) ↔
      ∀ v, forAttributes.value? ↑s c = some v → IsTold v) := by
  refine ⟨fun hsynonymous hdepth hdepth' => verdict_congr ?_, fun hrename hnames => ?_, ?_⟩
  · rw [value?_forAttributes, value?_forAttributes]
    cases ht : c.trigger? with
    | none => rfl
    | some t =>
      have heval := evaluate_eq_eval hs fun d hd => hdepth ⟨t, ht, d, hd⟩
      have heval' := evaluate_eq_eval hs' fun d hd => hdepth' ⟨t, ht, d, hd⟩
      rw [Option.bind_some, Option.bind_some, heval, heval']
      exact Expression.agree_eval hsynonymous
  · subst hrename
    refine verdict_congr ?_
    rw [value?_forName, value?_forAttributes]
    refine congrArg c.trigger?.bind (funext fun t => congrArg _ ?_)
    refine Expression.evaluate_rename hs hs' fun x hx => ?_
    rw [hnames x hx]
    rfl
  · exact exists_verdict_iff

/-! ### Some expressions -/

/-- The condition that the name is `paid` and the correlation token is not `id`, with or without
`trigger.` and with either name of the token. -/
def paidCondition (qualified : Bool) (token : Expression.Attribute) : Expression.Condition where
  first := ⟨⟨false, ⟨.name, qualified⟩, .equals false true ↑"paid"⟩,
    [⟨false, ⟨token, qualified⟩, .equals true true ↑"id"⟩]⟩
  rest := []

theorem synonymous_paidCondition :
    (paidCondition false .camelToken).tree.Synonymous (paidCondition true .snakeToken).tree :=
  .all (.cons (.compare (.subject rfl) rfl (.cons (.refl _) .nil))
    (.cons (.compare (.subject rfl) rfl (.cons (.refl _) .nil)) .nil))

/-- A variable is compared with a text by a method. -/
def isEquals (x : String) (text : Text) : Expr → Bool
  | .call (.member (.name y) method) [.constant (.text u)] [] =>
    y == x && method == "equals" && u == text
  | _ => false

theorem eq_of_isEquals {x : String} {text : Text} (h : (compile s).toOption.any (isEquals x text)) :
    compile s = .ok (.call (.member (.name x) "equals") [.constant (.text text)] []) := by
  cases hs : compile s with
  | error f =>
    rw [hs] at h
    cases h
  | ok e =>
    rw [hs] at h
    have h : isEquals x text e = true := h
    unfold isEquals at h
    split at h
    · simp only [Bool.and_eq_true, beq_iff_eq] at h
      rw [h.1.1, h.1.2, h.2]
    · cases h

/-- A condition with other names for its attributes, and a method of the name. -/
theorem verdict_interchange_paid :
    let bare := String.ofList (paidCondition false .camelToken).chars
    let qualified := String.ofList (paidCondition true .snakeToken).chars
    let paid : Trigger := ⟨some ↑"paid", none, none, none⟩
    forAttributes.verdict ↑bare (.trigger paid) = forAttributes.verdict ↑qualified (.trigger paid) ∧
      (∃ b, forAttributes.verdict ↑bare (.trigger paid) = .ok b) ∧
        forName.verdict ↑"trigger.equals('paid')" (.name ↑"paid") =
          forAttributes.verdict ↑"name.equals('paid')" (.name ↑"paid") := by
  intro bare qualified paid
  have hwhole (q : Bool) (token : Expression.Attribute) :
      Expression.IsWhole (paidCondition q token).parts :=
    Expression.isWhole_of_holdsHalf (by cases q <;> cases token <;> decide +kernel)
  have hdepth (q : Bool) (token : Expression.Attribute) :
      ¬ TooDeep (String.ofList (paidCondition q token).chars) (.trigger paid) := by
    rintro ⟨t, -, d, hd⟩
    rw [Expression.Condition.evaluate_chars t (hwhole q token)] at hd
    cases hd
  obtain ⟨hsame, -, htold⟩ := verdict_interchange
    (paidCondition false .camelToken).compile_chars (paidCondition true .snakeToken).compile_chars
    (.trigger paid)
  have hequals : compile "name.equals('paid')" =
      .ok (.call (.member (.name "name") "equals") [.constant (.text ↑"paid")] []) :=
    eq_of_isEquals (by decide +kernel)
  have hrenamed : compile "trigger.equals('paid')" =
      .ok (.call (.member (.name "trigger") "equals") [.constant (.text ↑"paid")] []) :=
    eq_of_isEquals (by decide +kernel)
  obtain ⟨-, hname, -⟩ := verdict_interchange hequals hrenamed (.name ↑"paid")
  refine ⟨hsame synonymous_paidCondition (hdepth _ _) (hdepth _ _), htold.2 fun v hv => ?_,
    hname rfl (by decide)⟩
  rw [value?_forAttributes, Context.trigger?, Option.bind_some,
    Expression.Condition.evaluate_chars paid (hwhole _ _)] at hv
  cases hv
  exact .inl ⟨_, rfl⟩

/-- A pair of an attribute and an integer in base 16 has a value, however long the integer. -/
theorem evaluate_pairedChars (t : Trigger) (s : Subject) (n : Nat) :
    evaluate (attributeVariables t) (String.ofList (Expression.pairedChars s (n + 1))) =
      .ok (.list [optionalText (s.attr.ofTrigger t), .int (16 ^ (n + 1) - 1 : Nat)]) := by
  have hflat : ¬ Expression.evaluationLimit < 4 * (Expression.pairedTree s (n + 1)).height := by
    have hheight : (Expression.pairedTree s (n + 1)).height = max s.tree.height (max 1 0) + 1 := rfl
    have htree := s.within_tree.1
    rw [hheight, Expression.evaluationLimit]
    omega
  rw [evaluate, Expression.compile_pairedChars]
  show (if Expression.evaluationLimit < 4 * (Expression.pairedTree s (n + 1)).height then _
    else eval _ (Expression.pairedTree s (n + 1))) = _
  rw [if_neg hflat, Expression.pairedTree, eval, Expression.evalItems, s.eval_tree]
  rfl

/-- Nothing is said of a pair of the name and an integer with 3600 digits in base 16, be it written
with `trigger.` or without. -/
theorem not_forall_interchange :
    ¬ ∀ (s s' : String) (e e' : Expr) (c : Context), compile s = .ok e → compile s' = .ok e' →
      e.Synonymous e' → ¬ TooDeep s c → ¬ TooDeep s' c →
        ∃ b, forAttributes.verdict ↑s c = .ok b ∧ forAttributes.verdict ↑s' c = .ok b := by
  intro h
  have hdepth (q : Bool) : ¬ TooDeep (String.ofList (Expression.pairedChars ⟨.name, q⟩ (3599 + 1)))
      (.trigger ⟨none, none, none, none⟩) := by
    rintro ⟨t, -, d, hd⟩
    rw [evaluate_pairedChars] at hd
    cases hd
  obtain ⟨b, hb, -⟩ := h _ _ _ _ (.trigger ⟨none, none, none, none⟩)
    (Expression.compile_pairedChars ⟨.name, false⟩ 3599)
    (Expression.compile_pairedChars ⟨.name, true⟩ 3599)
    (.tuple (.cons (.subject rfl) (.cons (.refl _) .nil))) (hdepth _) (hdepth _)
  obtain ⟨b, hb⟩ | hshort := exists_verdict_iff.1 ⟨b, hb⟩ _ (by
    rw [value?_forAttributes, Context.trigger?, Option.bind_some, evaluate_pairedChars]
    rfl)
  · cases hb
  · have hlong : Number.exceedsDigitLimit (16 ^ (3599 + 1) - 1 : Nat) = true := by decide +kernel
    have hpair (v : Value) (n : Int) :
        (Value.list [v, .int n]).holdsLongInt = (v.holdsLongInt || Number.exceedsDigitLimit n) := by
      simp [Value.holdsLongInt, Value.anyLongInt]
    rw [hpair, hlong, Bool.or_true] at hshort
    cases hshort

end Evaluator
end WorkflowKit
