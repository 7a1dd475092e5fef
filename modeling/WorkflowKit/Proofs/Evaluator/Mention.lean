/-
# Expressions see only what they mention

The outcome of an expression depends on the variables that occur in its tree, and on no others
(`evaluate_congr`).  So two tables of variables that have the same values, or none, under the names
that occur give the same value, or the same fault.

For the evaluators this means that an expression which mentions neither `trigger` nor an attribute
cannot tell two triggers that differ in that attribute only (`verdict_eq_of_not_mentions`).
-/

import WorkflowKit.Proofs.Evaluator.Interchange

namespace WorkflowKit
namespace Expr

mutual

/-- A tree whose variables keep their names stays as it is. -/
theorem rename_id (e : Expr) : e.rename id = e := by
  cases e with
  | constant | name => rfl
  | all es | any es | list es | tuple es | other form es => rw [rename, renameAll_id]
  | signed s e | member e x => rw [rename, rename_id]
  | compare e rest => rw [rename, rename_id, renameChain_id]
  | call f es ns => rw [rename, rename_id, renameAll_id, renameAll_id]

theorem renameAll_id (es : List Expr) : renameAll id es = es := by
  cases es with
  | nil => rfl
  | cons e es => rw [renameAll, rename_id, renameAll_id]

theorem renameChain_id (rest : List (Expression.Comparison × Expr)) :
    renameChain id rest = rest := by
  match rest with
  | [] => rfl
  | (c, e) :: rest => rw [renameChain, rename_id, renameChain_id]

end

end Expr

namespace Expression

variable {s : String} {vars vars' : Variables}

/-- **An expression sees no variables but those of its tree.** -/
theorem evaluate_congr
    (h : ∀ e, compile s = .ok e → ∀ x ∈ e.names, lookup? x vars = lookup? x vars') :
    evaluate vars s = evaluate vars' s := by
  cases hs : compile s with
  | error f =>
    rw [evaluate, evaluate, hs]
    rfl
  | ok e =>
    have hcarries : Carries id vars' vars e.names := fun x hx => by
      rw [id, eval, eval, h e hs x hx]
    exact evaluate_rename hs (by rw [Expr.rename_id, hs]) hcarries

/-- An expression has a variable in its tree. -/
def Mentions (source : Text) (x : String) : Prop :=
  ∃ s e, source.toString? = some s ∧ compile s = .ok e ∧ x ∈ e.names

end Expression

namespace Evaluator

open Expression (Variables Attribute Mentions compile evaluate)

variable {source : Text} {vars vars' : Variables} {t t' : Trigger} {a : Attribute} {c c' : Context}

theorem valueWith?_congr (h : ∀ x, Mentions source x → lookup? x vars = lookup? x vars') :
    valueWith? source vars = valueWith? source vars' := by
  rw [valueWith?, valueWith?]
  cases hs : source.toString? with
  | none => rfl
  | some s =>
    have heval : evaluate vars s = evaluate vars' s :=
      Expression.evaluate_congr fun e he x hx => h x ⟨s, e, hs, he, hx⟩
    rw [Option.bind_eq_bind, Option.bind_some, Option.bind_some, heval]

theorem value?_ofAttributes (n source : Text) (c : Context) :
    (ofAttributes n).value? source c =
      c.trigger?.bind fun t => valueWith? source (attributeVariables t) := by
  cases c <;> rfl

theorem value?_ofName (n source : Text) (c : Context) :
    (ofName n).value? source c =
      c.trigger?.bind fun t => valueWith? source [("trigger", optionalText t.name)] := by
  cases c <;> rfl

/-- Two triggers differ in one attribute at most. -/
def DifferOnlyIn (a : Attribute) (t t' : Trigger) : Prop :=
  ∀ b : Attribute, b.canonical ≠ a.canonical → b.ofTrigger t = b.ofTrigger t'

/-- Beside the attributes there is no variable but `trigger`. -/
theorem lookup?_attributeVariables_of_ne {x : String} (htrigger : x ≠ "trigger")
    (hx : ∀ b : Attribute, x ≠ b.id) (t : Trigger) : lookup? x (attributeVariables t) = none := by
  rw [lookup?, Option.map_eq_none_iff, List.find?_eq_none]
  intro e he
  rw [beq_iff_eq]
  rintro rfl
  simp only [attributeVariables, attributes, List.cons_append, List.nil_append, List.mem_cons,
    List.not_mem_nil, or_false] at he
  obtain rfl | rfl | rfl | rfl | rfl | rfl := he
  · exact hx .name rfl
  · exact hx .source rfl
  · exact hx .type rfl
  · exact hx .snakeToken rfl
  · exact hx .camelToken rfl
  · exact htrigger rfl

theorem lookup?_of_differOnlyIn (h : DifferOnlyIn a t t') {x : String} (htrigger : x ≠ "trigger")
    (hx : ∀ b : Attribute, b.canonical = a.canonical → x ≠ b.id) :
    lookup? x (attributeVariables t) = lookup? x (attributeVariables t') := by
  by_cases hattr : ∃ b : Attribute, x = b.id
  · obtain ⟨b, rfl⟩ := hattr
    rw [Expression.lookup?_attributeVariables, Expression.lookup?_attributeVariables,
      h b fun hb => hx b hb rfl]
  · have hnone : ∀ b : Attribute, x ≠ b.id := fun b hb => hattr ⟨b, hb⟩
    rw [lookup?_attributeVariables_of_ne htrigger hnone,
      lookup?_attributeVariables_of_ne htrigger hnone]

/-- **Expressions see only what they mention.**  First, an expression has the same outcome under two
tables of variables that have the same values, or none, for the names in its tree.  Second, nothing
else is said of two triggers that differ only in an attribute, be they given as triggers or by their
names, if the expression mentions neither the attribute nor `trigger`. -/
theorem verdict_eq_of_not_mentions :
    (∀ (s : String) (vars vars' : Variables),
      (∀ e, compile s = .ok e → ∀ x ∈ e.names, lookup? x vars = lookup? x vars') →
        evaluate vars s = evaluate vars' s) ∧
      ∀ (source : Text) (a : Attribute) (c c' : Context) (t t' : Trigger),
        c.trigger? = some t → c'.trigger? = some t' → DifferOnlyIn a t t' →
        ¬ Mentions source "trigger" →
        (∀ b : Attribute, b.canonical = a.canonical → ¬ Mentions source b.id) →
          ∀ n, (ofAttributes n).verdict source c = (ofAttributes n).verdict source c' ∧
            (ofName n).verdict source c = (ofName n).verdict source c' := by
  refine ⟨fun s vars vars' => Expression.evaluate_congr, ?_⟩
  intro source a c c' t t' hc hc' hdiffer htrigger hattr n
  constructor
  · refine verdict_congr ?_
    rw [value?_ofAttributes, value?_ofAttributes, hc, hc', Option.bind_some, Option.bind_some]
    refine valueWith?_congr fun x hx => lookup?_of_differOnlyIn hdiffer ?_ ?_
    · rintro rfl
      exact htrigger hx
    · rintro b hb rfl
      exact hattr b hb hx
  · refine verdict_congr ?_
    rw [value?_ofName, value?_ofName, hc, hc', Option.bind_some, Option.bind_some]
    refine valueWith?_congr fun x hx => ?_
    have hne : "trigger" ≠ x := by
      rintro rfl
      exact htrigger hx
    simp [lookup?, hne]

/-- An expression about the type cannot tell two triggers with different sources, and does not see
what other variables there are. -/
theorem verdict_eq_of_not_mentions_source :
    let created : Trigger := ⟨some ↑"order", some ↑"shop", some ↑"created", none⟩
    let elsewhere : Trigger := ⟨some ↑"order", none, some ↑"created", none⟩
    evaluate [("type", .text ↑"created"), ("source", .int 1)] "type == 'created'" =
        evaluate [("type", .text ↑"created")] "type == 'created'" ∧
      DifferOnlyIn .source created elsewhere ∧
      forAttributes.verdict ↑"type == 'created'" (.trigger created) =
        forAttributes.verdict ↑"type == 'created'" (.trigger elsewhere) ∧
      forName.verdict ↑"type == 'created'" (.trigger created) =
        forName.verdict ↑"type == 'created'" (.trigger elsewhere) := by
  intro created elsewhere
  have hnames :
      ((compile "type == 'created'").toOption.all fun e => e.names == ["type"]) = true := by
    decide +kernel
  have hmentions (e : Expr) (he : compile "type == 'created'" = .ok e) : e.names = ["type"] := by
    rw [he] at hnames
    exact eq_of_beq hnames
  have honly (x : String) (hx : Mentions ↑"type == 'created'" x) : x = "type" := by
    obtain ⟨s, e, hs, he, hmem⟩ := hx
    rw [Text.toString?_ofString, Option.some.injEq] at hs
    subst hs
    rw [hmentions e he] at hmem
    exact List.mem_singleton.1 hmem
  have hdiffer : DifferOnlyIn .source created elsewhere := by
    intro b hb
    cases b with
    | source => exact absurd rfl hb
    | _ => rfl
  obtain ⟨hevaluate, hverdict⟩ := verdict_eq_of_not_mentions
  have hsame := hverdict ↑"type == 'created'" .source (.trigger created) (.trigger elsewhere)
    created elsewhere rfl rfl hdiffer (fun h => absurd (honly _ h) (by decide)) fun b hb h => by
      cases b with
      | type => cases hb
      | _ => exact absurd (honly _ h) (by decide)
  refine ⟨hevaluate _ _ _ fun e he x hx => ?_, hdiffer, (hsame _).1, (hsame _).2⟩
  rw [hmentions e he, List.mem_singleton] at hx
  rw [hx]
  rfl

end Evaluator
end WorkflowKit
