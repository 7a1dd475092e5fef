/-
# What conditions say

An event with a condition matches the triggers that fulfil the condition
(`Condition.evaluate_chars`), as long as the text of the condition holds no half of a pair: such a
text is not read as an expression, so that the event matches nothing (`accepts_of_holdsHalf`).

The tree of a condition is flat (`Condition.within_tree`), so that no limit of depth is met however
long the condition is.
-/

import WorkflowKit.Evaluator
import WorkflowKit.Proofs.Expression.Reading
import WorkflowKit.Proofs.Value.Text

namespace WorkflowKit
namespace Expression

open Evaluator

/-! ### The characters of a condition -/

/-- Parts whose literals hold no halves. -/
def IsWhole (ps : List Part) : Prop := ∀ s, Part.literal s ∈ ps → s.holdsHalf = false

/-- Parts of whole parts are whole. -/
theorem IsWhole.of_subset {ps qs : List Part} (h : IsWhole ps) (hqs : ∀ q ∈ qs, q ∈ ps) :
    IsWhole qs :=
  fun s hs => h s (hqs _ hs)

/-- If the written text of some parts holds no half of a pair, none of their literals does. -/
theorem isWhole_of_holdsHalf {ps : List Part}
    (h : (⟨ps.flatMap Part.points⟩ : Text).holdsHalf = false) : IsWhole ps := by
  intro s hs
  rw [Text.holdsHalf, List.any_flatMap, List.any_eq_false] at h
  rw [Text.holdsHalf, List.any_eq_false]
  intro p hp hhalf
  refine h _ hs (List.any_eq_true.2 ⟨p, ?_, hhalf⟩)
  cases p with
  | char c => cases hhalf
  | half n =>
    have hmem : CodePoint.half n ∈ s.points.flatMap escapedPoint :=
      List.mem_flatMap.2 ⟨_, hp, List.mem_singleton.2 rfl⟩
    simp [Part.points, hmem]

/-- A whole part consists of characters. -/
theorem Part.points_eq {ps : List Part} (h : IsWhole ps) {p : Part} (hp : p ∈ ps) :
    p.points = p.chars.map .char := by
  cases p with
  | plain cs => rfl
  | literal s =>
    have hs := congrArg Text.points (Text.ofChars_chars (h s hp))
    rw [points, chars, quotedChars, ← hs, Text.ofChars]
    simp [List.flatMap_map, List.map_flatMap, escapedPoint]

/-- The text of a whole condition is a string: the characters that `Condition.normalChars_chars`
brings into normal form. -/
theorem Condition.text_eq (c : Condition) (h : IsWhole c.parts) :
    c.text = Text.ofString (String.ofList c.chars) := by
  rw [text, Text.ofString, String.toList_ofList, Text.ofChars, Text.mk.injEq, chars,
    List.map_flatMap]
  exact List.flatMap_congr fun p hp => Part.points_eq h hp

/-! ### The depth of a condition -/

/-- A tree that is at most `n` parts high, and takes at most `k` levels to be read. -/
def Within (n k : Nat) (e : Expr) : Prop := e.height ≤ n ∧ e.levels ≤ k

namespace Within

variable {n k m l : Nat} {e f : Expr} {es : List Expr}

/-- A tree that stays within limits stays within higher ones. -/
theorem mono (h : Within n k e) (hn : n ≤ m) (hk : k ≤ l) : Within m l e :=
  ⟨Nat.le_trans h.1 hn, Nat.le_trans h.2 hk⟩

/-- The height of the operands is within the limit of each of them. -/
theorem heightOf_le (h : ∀ e ∈ es, Within n k e) : Expr.heightOf es ≤ n := by
  induction es with
  | nil => exact Nat.zero_le n
  | cons e es ih =>
    rw [List.forall_mem_cons] at h
    exact Nat.max_le.2 ⟨h.1.1, ih h.2⟩

/-- Operands that start at `first` or, behind the first one, at `next` levels take no more than
their own levels on top of `next`. -/
theorem levelsOf_le (h : ∀ e ∈ es, Within n k e) {first next : Nat} (hfirst : first ≤ next) :
    Expr.levelsOf first next es ≤ next + k := by
  induction es generalizing first with
  | nil => exact Nat.zero_le _
  | cons e es ih =>
    rw [List.forall_mem_cons] at h
    exact Nat.max_le.2 ⟨Nat.add_le_add hfirst h.1.2, ih h.2 (Nat.le_refl _)⟩

/-- Negation adds one part and one level. -/
theorem not (h : Within n k e) : Within (n + 1) (k + 1) (.signed .not e) :=
  ⟨Nat.succ_le_succ h.1, Nat.succ_le_succ h.2⟩

/-- A comparison of two operands adds one part, and three levels for its second operand. -/
theorem compare (he : Within n k e) (hf : Within n k f) (c : Comparison) :
    Within (n + 1) (3 + k) (.compare e [(c, f)]) := by
  refine ⟨Nat.succ_le_succ (Nat.max_le.2 ⟨he.1, Nat.max_le.2 ⟨hf.1, Nat.zero_le n⟩⟩), ?_⟩
  refine Nat.max_le.2 ⟨Nat.le_trans he.2 (Nat.le_add_left k 3), ?_⟩
  exact Nat.max_le.2 ⟨Nat.add_le_add_left hf.2 3, Nat.zero_le _⟩

/-- A list display adds one part and at most thirty levels, however many items it has. -/
theorem list (h : ∀ e ∈ es, Within n k e) : Within (n + 1) (30 + k) (.list es) :=
  ⟨Nat.succ_le_succ (heightOf_le h), levelsOf_le h (by decide)⟩

/-- A conjunction adds one part and two levels, however many operands it has. -/
theorem all (h : ∀ e ∈ es, Within n k e) : Within (n + 1) (2 + k) (.all es) :=
  ⟨Nat.succ_le_succ (heightOf_le h), levelsOf_le h (by decide)⟩

/-- A disjunction adds one part and two levels, however many operands it has. -/
theorem any (h : ∀ e ∈ es, Within n k e) : Within (n + 1) (2 + k) (.any es) :=
  ⟨Nat.succ_le_succ (heightOf_le h), levelsOf_le h (by decide)⟩

end Within

/-- A literal is a leaf. -/
theorem within_literal (s : List Char) : Within 1 0 (literal s) := ⟨Nat.le_refl 1, Nat.le_refl 0⟩

/-- A subject is a name, or an attribute of the name `trigger`. -/
theorem Subject.within_tree (s : Subject) : Within 2 0 s.tree := by
  obtain ⟨a, qualified⟩ := s
  cases qualified with
  | false => exact ⟨Nat.le_succ 1, Nat.le_refl 0⟩
  | true => exact ⟨Nat.le_refl 2, Nat.le_refl 0⟩

/-- A test is a comparison with a literal or with a list of literals. -/
theorem Test.within_tree (s : Subject) (t : Test) : Within 3 33 (t.tree s.tree) := by
  cases t with
  | equals negated sign text =>
    have hliteral := (within_literal text.chars).mono (m := 2) (by decide) (Nat.le_refl 0)
    exact (s.within_tree.compare hliteral _).mono (Nat.le_refl 3) (by decide)
  | isIn negated ss =>
    have hlist : Within 2 30 (.list ((ss.map Text.chars).map literal)) := by
      refine Within.list (k := 0) fun e he => ?_
      obtain ⟨s, -, rfl⟩ := List.mem_map.1 he
      exact within_literal s
    exact (s.within_tree.mono (Nat.le_refl 2) (by decide)).compare hlist _

/-- A check adds at most a negation to its test. -/
theorem Check.within_tree (c : Check) : Within 4 34 c.tree := by
  have htest := Test.within_tree c.subject c.test
  rw [tree]
  split
  · exact htest.not
  · exact htest.mono (by decide) (by decide)

/-- A clause adds at most one conjunction, whatever the number of its checks. -/
theorem Clause.within_tree (k : Clause) : Within 5 36 k.tree := by
  have hfirst := k.first.within_tree
  rw [tree]
  split
  · exact hfirst.mono (by decide) (by decide)
  · refine Within.all (List.forall_mem_cons.2 ⟨hfirst, fun e he => ?_⟩)
    obtain ⟨c, -, rfl⟩ := List.mem_map.1 he
    exact c.within_tree

/-- A condition adds at most one disjunction, so that its height and its levels are bounded by
constants. -/
theorem Condition.within_tree (c : Condition) : Within 6 38 c.tree := by
  have hfirst := c.first.within_tree
  rw [tree]
  split
  · exact hfirst.mono (by decide) (by decide)
  · refine Within.any (List.forall_mem_cons.2 ⟨hfirst, fun e he => ?_⟩)
    obtain ⟨k, -, rfl⟩ := List.mem_map.1 he
    exact k.within_tree

/-! ### The truth of a condition -/

/-- Among the variables of a trigger the name of an attribute stands for the attribute. -/
theorem lookup?_attributeVariables (t : Trigger) (a : Attribute) :
    lookup? a.id (attributeVariables t) = some (optionalText (a.ofTrigger t)) := by
  cases a <;> rfl

/-- Of the record `trigger` itself an attribute is read by the same name. -/
theorem lookup?_attributes (t : Trigger) (a : Attribute) :
    lookup? a.id (attributes t) = some (optionalText (a.ofTrigger t)) := by
  cases a <;> rfl

/-- A subject is evaluated to the attribute of the trigger, in both of its spellings. -/
theorem Subject.eval_tree (t : Trigger) (s : Subject) :
    eval (attributeVariables t) s.tree = .ok (optionalText (s.attr.ofTrigger t)) := by
  obtain ⟨a, qualified⟩ := s
  cases qualified with
  | false => rw [tree, if_neg Bool.false_ne_true, eval, lookup?_attributeVariables]
  | true =>
    have htrigger : eval (attributeVariables t) (.name "trigger") =
        .ok (.map ((attributes t).map fun e => (↑e.1, e.2))) := rfl
    rw [tree, if_pos rfl, eval, htrigger]
    show attributeOf (.map ((attributes t).map fun e => (↑e.1, e.2))) a.id = _
    rw [attributeOf, lookup?_ofString, lookup?_attributes]

/-- An attribute is equal to a literal exactly if it is given and is that text. -/
theorem equal_optionalText (v : Option Text) (s : Text) :
    (optionalText v).equal (.text s) = (v == some s) := by
  cases v with
  | none => simp [optionalText, Value.equal, Value.numeric?]
  | some u => simp [optionalText, Value.equal]

/-- Among the members of a list an attribute is found exactly as it is equal to one. -/
theorem found_optionalText (v : Option Text) (s : Text) :
    Value.found (optionalText v) (.text s) = (v == some s) := by
  rw [Value.found, equal_optionalText]
  cases v <;> rfl

section Evaluation

variable {vars : Variables} {e f : Expr} {v w : Value} {c : Comparison} {b : Bool}

/-- A comparison of two operands with values is what its test says of the values. -/
theorem eval_compare {test : Value → Value → Option Bool} (he : eval vars e = .ok v)
    (hf : eval vars f = .ok w) (hc : c.test? = some test) (ht : test v w = some b) :
    eval vars (.compare e [(c, f)]) = .ok (.bool b) := by
  have hchain : evalChain vars v [(c, f)] = .ok b := by
    rw [evalChain, hc]
    dsimp only
    rw [hf]
    show (compareValues c test v w >>= _) = _
    rw [compareValues, ht]
    cases b <;> rfl
  show (eval vars e >>= fun u => Value.bool <$> evalChain vars u [(c, f)]) = _
  rw [he]
  show (Value.bool <$> evalChain vars v [(c, f)]) = _
  rw [hchain]
  rfl

/-- A negated truth value. -/
theorem eval_not (he : eval vars e = .ok (.bool b)) :
    eval vars (.signed .not e) = .ok (.bool !b) := by
  show (eval vars e >>= Sign.not.value) = _
  rw [he]
  rfl

/-- The items of a list display are evaluated one by one. -/
theorem evalItems_map {α : Type} {tree : α → Expr} {value : α → Value} {as : List α}
    (h : ∀ a ∈ as, eval vars (tree a) = .ok (value a)) :
    evalItems vars (as.map tree) = .ok (as.map value) := by
  induction as with
  | nil => rfl
  | cons a as ih =>
    rw [List.forall_mem_cons] at h
    show (eval vars (tree a) >>= fun v => evalItems vars (as.map tree) >>= _) = _
    rw [h.1, ih h.2]
    rfl

/-- A conjunction of operands with truth values is their conjunction. -/
theorem evalAll_map {α : Type} {tree : α → Expr} {holds : α → Bool} {as : List α}
    (h : ∀ a ∈ as, eval vars (tree a) = .ok (.bool (holds a))) :
    evalAll vars (as.map tree) = .ok (as.all holds) := by
  induction as with
  | nil => rfl
  | cons a as ih =>
    rw [List.forall_mem_cons] at h
    show (eval vars (tree a) >>= fun v => if v.isTruthy then evalAll vars (as.map tree) else _) = _
    rw [h.1, List.all_cons, ih h.2]
    cases hb : holds a <;> rfl

/-- A disjunction of operands with truth values is their disjunction. -/
theorem evalAny_map {α : Type} {tree : α → Expr} {holds : α → Bool} {as : List α}
    (h : ∀ a ∈ as, eval vars (tree a) = .ok (.bool (holds a))) :
    evalAny vars (as.map tree) = .ok (as.any holds) := by
  induction as with
  | nil => rfl
  | cons a as ih =>
    rw [List.forall_mem_cons] at h
    show (eval vars (tree a) >>= fun v => if v.isTruthy then _ else evalAny vars (as.map tree)) = _
    rw [h.1, List.any_cons, ih h.2]
    cases hb : holds a <;> rfl

end Evaluation

/-- Every literal of a list is one of its parts. -/
theorem mem_listed {s : Text} {ss : List Text} (h : s ∈ ss) : Part.literal s ∈ listed ss := by
  cases ss with
  | nil => cases h
  | cons u us =>
    rcases List.mem_cons.1 h with rfl | h
    · exact List.mem_cons_self
    · exact List.mem_cons_of_mem _ (List.mem_flatMap.2 ⟨s, h, by simp⟩)

/-- A whole literal is evaluated to the text that was looked for. -/
theorem eval_literal (vars : Variables) {s : Text} (h : s.holdsHalf = false) :
    eval vars (literal s.chars) = .ok (.text s) := by
  rw [literal, eval, Constant.value, Text.ofChars_chars h]

/-- A test is evaluated to whether it holds of the attribute. -/
theorem Test.eval_tree (t : Trigger) (s : Subject) {test : Test} (h : IsWhole test.parts) :
    eval (attributeVariables t) (test.tree s.tree) =
      .ok (.bool (test.holds (s.attr.ofTrigger t))) := by
  have hsubject := s.eval_tree t
  cases test with
  | equals negated sign text =>
    have hliteral := eval_literal (attributeVariables t) (h text (by simp [parts]))
    have hequal := equal_optionalText (s.attr.ofTrigger t) text
    cases negated with
    | false => exact eval_compare hsubject hliteral rfl (by simp [hequal, holds])
    | true => exact eval_compare hsubject hliteral rfl (by simp [hequal, holds])
  | isIn negated ss =>
    have hitems : evalItems (attributeVariables t) (ss.map fun u => literal u.chars) =
        .ok (ss.map .text) :=
      evalItems_map fun u hu => eval_literal _ (h u (by simp [parts, mem_listed hu]))
    have hlist : eval (attributeVariables t) (.list ((ss.map Text.chars).map literal)) =
        .ok (.list (ss.map .text)) := by
      rw [List.map_map]
      show (Value.list <$> evalItems _ (ss.map fun u => literal u.chars)) = _
      rw [hitems]
      rfl
    have hmember : (optionalText (s.attr.ofTrigger t)).member? (.list (ss.map .text)) =
        some (ss.any fun u => s.attr.ofTrigger t == some u) := by
      simp [Value.member?, List.any_map, Function.comp_def, found_optionalText]
    cases negated with
    | false => exact eval_compare hsubject hlist rfl (by simp [hmember, holds])
    | true => exact eval_compare hsubject hlist rfl (by simp [hmember, holds])

/-- A check is evaluated to whether it holds of the trigger. -/
theorem Check.eval_tree (t : Trigger) {c : Check} (h : IsWhole c.parts) :
    eval (attributeVariables t) c.tree = .ok (.bool (c.holds t)) := by
  have htest := Test.eval_tree t c.subject (h.of_subset fun p hp => List.mem_cons_of_mem _ hp)
  rw [tree, holds]
  cases c.negated with
  | false => simpa using htest
  | true => simpa using eval_not htest

/-- A clause is evaluated to whether all its checks hold. -/
theorem Clause.eval_tree (t : Trigger) {k : Clause} (h : IsWhole k.parts) :
    eval (attributeVariables t) k.tree = .ok (.bool (k.holds t)) := by
  have hchecks : ∀ c ∈ k.first :: k.rest,
      eval (attributeVariables t) c.tree = .ok (.bool (c.holds t)) := by
    refine List.forall_mem_cons.2 ⟨?_, fun c hc => ?_⟩
    · exact Check.eval_tree t (h.of_subset fun p hp => List.mem_append_left _ hp)
    · refine Check.eval_tree t (h.of_subset fun p hp => ?_)
      exact List.mem_append_right _ (List.mem_flatMap.2 ⟨c, hc, List.mem_cons_of_mem _ hp⟩)
  rw [tree, holds]
  split
  · next hrest =>
    rw [List.isEmpty_iff, List.map_eq_nil_iff] at hrest
    simpa [hrest] using hchecks _ List.mem_cons_self
  · have hall := evalAll_map hchecks
    rw [List.map_cons] at hall
    show (Value.bool <$> evalAll _ _) = _
    rw [hall]
    rfl

/-- A condition is evaluated to whether one of its clauses holds. -/
theorem Condition.eval_tree (t : Trigger) {c : Condition} (h : IsWhole c.parts) :
    eval (attributeVariables t) c.tree = .ok (.bool (c.holds t)) := by
  have hclauses : ∀ k ∈ c.first :: c.rest,
      eval (attributeVariables t) k.tree = .ok (.bool (k.holds t)) := by
    refine List.forall_mem_cons.2 ⟨?_, fun k hk => ?_⟩
    · exact Clause.eval_tree t (h.of_subset fun p hp => List.mem_append_left _ hp)
    · refine Clause.eval_tree t (h.of_subset fun p hp => ?_)
      exact List.mem_append_right _ (List.mem_flatMap.2 ⟨k, hk, List.mem_cons_of_mem _ hp⟩)
  rw [tree, holds]
  split
  · next hrest =>
    rw [List.isEmpty_iff, List.map_eq_nil_iff] at hrest
    simpa [hrest] using hclauses _ List.mem_cons_self
  · have hany := evalAny_map hclauses
    rw [List.map_cons] at hany
    show (Value.bool <$> evalAny _ _) = _
    rw [hany]
    rfl

/-! ### Matching -/

/-- The text of a condition is compiled to the tree of the condition: normal form, tokens, grammar
and limits of depth together. -/
theorem Condition.compile_chars (c : Condition) : compile (String.ofList c.chars) = .ok c.tree := by
  obtain ⟨hheight, hlevels⟩ := c.within_tree
  rw [compile, String.toList_ofList, c.normalChars_chars, contains_null c.isBare_normalChars,
    c.tree?_normalChars]
  show (if readingLimit < c.tree.levels then _ else _) = _
  rw [if_neg (by rw [readingLimit]; omega), if_neg (by rw [heightLimit]; omega)]

/-- **Conditions mean what they say.** The text of a whole condition is evaluated, for the variables
of a trigger, to whether the trigger fulfils the condition. -/
theorem Condition.evaluate_chars (t : Trigger) {c : Condition} (h : IsWhole c.parts) :
    evaluate (attributeVariables t) (String.ofList c.chars) = .ok (.bool (c.holds t)) := by
  have hheight := c.within_tree.1
  rw [evaluate, c.compile_chars]
  show (if evaluationLimit < 4 * c.tree.height then _ else _) = _
  rw [if_neg (by rw [evaluationLimit]; omega), c.eval_tree t h]

/-- A text with a half of a pair is no expression, and matches nothing. -/
theorem accepts_of_holdsHalf {s : Text} (h : s.holdsHalf = true) (context : Context) :
    forAttributes.accepts s context = false := by
  have hvalue : forAttributes.value? s context = none := by
    cases context with
    | trigger t | name t =>
      show valueWith? s _ = _
      rw [valueWith?, Text.toString?_of_holdsHalf h]
      rfl
    | other => rfl
  rw [accepts, hvalue]

/-- **An event with a condition matches the triggers that fulfil it**: one of its clauses, which is
to say all checks of that clause.  Literals may hold anything, quotes and operators included, but
for halves of pairs; names of attributes may stand with or without `trigger.`, and operators may be
words or signs. -/
theorem accepts_condition (c : Condition) (t : Trigger) (h : c.text.holdsHalf = false) :
    forAttributes.accepts c.text (.trigger t) = c.holds t := by
  have hwhole := isWhole_of_holdsHalf h
  have hvalue : forAttributes.value? c.text (.trigger t) = some (.bool (c.holds t)) := by
    show valueWith? c.text (attributeVariables t) = _
    rw [valueWith?, c.text_eq hwhole, Text.toString?_ofString]
    show (evaluate (attributeVariables t) (String.ofList c.chars)).toOption = _
    rw [c.evaluate_chars t hwhole]
    rfl
  rw [accepts, hvalue]

/-- The condition `name eq 'a && !b' && !trigger.type in ['it\'s', 'x eq y'] ||
correlationToken != 'null'`. -/
def operatorsCondition : Condition where
  first := ⟨⟨false, ⟨.name, false⟩, .equals false false ↑"a && !b"⟩,
    [⟨true, ⟨.type, true⟩, .isIn false [↑"it's", ↑"x eq y"]⟩]⟩
  rest := [⟨⟨false, ⟨.camelToken, false⟩, .equals true true ↑"null"⟩, []⟩]

/-- Operators in literals are no operators: of two triggers whose attributes are texts with
operators one fulfils the condition and the other does not. -/
theorem accepts_condition_operators :
    operatorsCondition.text.holdsHalf = false ∧
      forAttributes.accepts operatorsCondition.text
        (.trigger ⟨some ↑"a && !b", none, none, some ↑"null"⟩) = true ∧
      forAttributes.accepts operatorsCondition.text
        (.trigger ⟨some ↑"a && !b", none, some ↑"x eq y", some ↑"null"⟩) = false :=
  have h : operatorsCondition.text.holdsHalf = false := by decide +kernel
  ⟨h, (accepts_condition _ _ h).trans (by decide +kernel),
    (accepts_condition _ _ h).trans (by decide +kernel)⟩

/-- The condition that the name differs from a half of a pair. -/
def halfCondition : Condition where
  first := ⟨⟨false, ⟨.name, false⟩, .equals true false ⟨[.ofNumber 0xdc00]⟩⟩, []⟩
  rest := []

/-- A trigger without a name fulfils the condition that its name differs from a half of a pair, but
is not matched, since the text of the condition is not read. -/
theorem not_forall_accepts_condition :
    ¬ ∀ (c : Condition) (t : Trigger),
      forAttributes.accepts c.text (.trigger t) = c.holds t := by
  intro h
  have hhalf : halfCondition.text.holdsHalf = true := by decide +kernel
  have hfalse := accepts_of_holdsHalf hhalf (.trigger ⟨none, none, none, none⟩)
  rw [h] at hfalse
  exact absurd hfalse (by decide +kernel)

end Expression
end WorkflowKit
