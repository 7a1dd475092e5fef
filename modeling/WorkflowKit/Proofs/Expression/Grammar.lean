/-
# Reading operands

`Reads read k ts a rest` says that a reader takes `a` from the front of the tokens `ts` and leaves
`rest`, whatever the bound on the depth of its calls as long as it is `k` or more.  The rules go up
the grammar, from an atom to an expression, for operands that no operator between numbers joins:
`EndsOperand` says how the tokens behind such an operand begin.
-/

import WorkflowKit.Expression.Grammar
import WorkflowKit.Proofs.Expression.Quotation

namespace WorkflowKit
namespace Expression

/-- A reader takes `a` from the front of tokens. -/
def Reads {α : Type} (read : Nat → List Token → Option (α × List Token)) (k : Nat)
    (ts : List Token) (a : α) (rest : List Token) : Prop :=
  ∀ fuel, k ≤ fuel → read fuel ts = some (a, rest)

/-- Tokens from an operand without a sign on. -/
inductive BeginsOperand : List Token → Prop
  /-- A name. -/
  | name (x : String) (ts : List Token) : BeginsOperand (.name x :: ts)
  /-- A text between quotes. -/
  | quotation (q : Quotation) (ts : List Token) : BeginsOperand (.quotation q :: ts)
  /-- The start of a list. -/
  | leftBracket (ts : List Token) : BeginsOperand (.mark .leftBracket :: ts)

/-- Tokens behind a comparison. -/
inductive EndsComparison : List Token → Prop
  /-- There are none. -/
  | nil : EndsComparison []
  /-- Another conjunct follows. -/
  | andWord (ts : List Token) : EndsComparison (.word .andWord :: ts)
  /-- Another disjunct follows. -/
  | orWord (ts : List Token) : EndsComparison (.word .orWord :: ts)
  /-- Another item follows. -/
  | comma (ts : List Token) : EndsComparison (.mark .comma :: ts)
  /-- The list ends. -/
  | rightBracket (ts : List Token) : EndsComparison (.mark .rightBracket :: ts)

/-- Tokens behind an operand. -/
inductive EndsOperand : List Token → Prop
  /-- The comparison ends. -/
  | comparison {ts : List Token} (h : EndsComparison ts) : EndsOperand ts
  /-- The test for equality. -/
  | eq (ts : List Token) : EndsOperand (.mark .eq :: ts)
  /-- The test for difference. -/
  | ne (ts : List Token) : EndsOperand (.mark .ne :: ts)
  /-- The test for membership. -/
  | inWord (ts : List Token) : EndsOperand (.word .inWord :: ts)
  /-- The opposite test for membership. -/
  | notWord (ts : List Token) : EndsOperand (.word .notWord :: ts)

variable {k l : Nat} {ts rest : List Token} {e : Expr}

namespace EndsOperand

/-- No operator between numbers begins there, of whichever level. -/
theorem operator?_eq_none (h : EndsOperand rest) {level : List Mark}
    (hlevel : level ∈ binaryLevels) : operator? level rest = none := by
  have hmark : ∀ level ∈ binaryLevels, ∀ m ∈ [Mark.comma, .rightBracket, .eq, .ne],
      level.contains m = false := by
    decide
  have hnone {m : Mark} (hm : m ∈ [Mark.comma, .rightBracket, .eq, .ne]) (ts : List Token) :
      operator? level (.mark m :: ts) = none := by
    rw [operator?, hmark level hlevel m hm]
    rfl
  cases h with
  | comparison h =>
    cases h with
    | comma | rightBracket => exact hnone (by decide) _
    | _ => rfl
  | eq | ne => exact hnone (by decide) _
  | inWord | notWord => rfl

/-- No power begins there. -/
theorem behind?_power (h : EndsOperand rest) : behind? .power rest = none := by
  cases h with
  | comparison h => cases h <;> rfl
  | _ => rfl

/-- No attribute, call or subscript begins there. -/
theorem trailers_eq (h : EndsOperand rest) (fuel : Nat) (e : Expr) :
    trailers (fuel + 1) e rest = some (e, rest) := by
  cases h with
  | comparison h => cases h <;> rfl
  | _ => rfl

/-- No further text between quotes begins there, which would be joined to one before. -/
theorem quotations_eq (h : EndsOperand rest) : quotations rest = ([], rest) := by
  cases h with
  | comparison h => cases h <;> rfl
  | _ => rfl

end EndsOperand

/-- No comparison goes on there. -/
theorem EndsComparison.comparison?_eq_none (h : EndsComparison rest) :
    comparison? rest = none := by
  cases h <;> rfl

namespace Reads

/-! ### From an atom to an operand -/

/-- An atom without attributes, calls and subscripts behind it is a primary. -/
theorem primary (h : Reads atom k ts e rest) (hrest : EndsOperand rest) :
    Reads primary (k + 2) ts e rest := by
  intro fuel hfuel
  obtain ⟨n, rfl⟩ := Nat.exists_eq_add_of_le' hfuel
  rw [← Nat.add_assoc, Expression.primary, h (n + k + 1) (by omega)]
  exact hrest.trailers_eq _ e

/-- A primary without a sign before it or a power behind it is a factor. -/
theorem factor (h : Reads Expression.primary k ts e rest) (ht : BeginsOperand ts)
    (hrest : EndsOperand rest) : Reads factor (k + 2) ts e rest := by
  intro fuel hfuel
  obtain ⟨n, rfl⟩ := Nat.exists_eq_add_of_le' hfuel
  have hawaited : awaited (n + k + 1) ts = some (e, rest) := by
    have hprimary := h (n + k) (by omega)
    cases ht <;> exact hprimary
  have hsign : sign? ts = none := by cases ht <;> rfl
  rw [← Nat.add_assoc, Expression.factor, hsign]
  refine Option.bind_eq_some_iff.2 ⟨(e, rest), hawaited, ?_⟩
  dsimp only
  rw [hrest.behind?_power]

/-- A factor is read on each level of the operators between numbers, if none of these follows. -/
theorem binary_levels (h : Reads Expression.factor k ts e rest) (hrest : EndsOperand rest)
    {levels : List (List Mark)} (hlevels : ∀ level ∈ levels, level ∈ binaryLevels) :
    Reads (fun fuel => binary fuel levels) (k + 1 + levels.length) ts e rest := by
  induction levels with
  | nil =>
    intro fuel hfuel
    obtain ⟨n, rfl⟩ := Nat.exists_eq_add_of_le' hfuel
    exact h (n + k) (by omega)
  | cons level levels ih =>
    intro fuel hfuel
    obtain ⟨n, rfl⟩ := Nat.exists_eq_add_of_le' hfuel
    have hn : n + (k + 1 + (level :: levels).length) = n + k + levels.length + 1 + 1 := by
      rw [List.length_cons]
      omega
    have htighter := ih (fun l hl => hlevels l (List.mem_cons_of_mem _ hl))
      (n + k + levels.length + 1) (by omega)
    rw [hn]
    refine Option.bind_eq_some_iff.2 ⟨(e, rest), htighter, ?_⟩
    dsimp only
    rw [moreOperands, hrest.operator?_eq_none (hlevels level List.mem_cons_self)]

/-- An operand that no operator between numbers joins. -/
theorem binary (h : Reads Expression.primary k ts e rest) (ht : BeginsOperand ts)
    (hrest : EndsOperand rest) :
    Reads (fun fuel => binary fuel binaryLevels) (k + 9) ts e rest :=
  (h.factor ht hrest).binary_levels hrest fun _ h => h

/-! ### From an operand to an expression -/

/-- A reader that gets along with a bound on its depth gets along with a greater one. -/
theorem mono {α : Type} {read : Nat → List Token → Option (α × List Token)} {a : α}
    (h : Reads read k ts a rest) (hl : k ≤ l) : Reads read l ts a rest :=
  fun fuel hfuel => h fuel (Nat.le_trans hl hfuel)

variable {mid : List Token} {c : Comparison} {f : Expr} {es : List Expr}

/-- Behind the last operand of a chain. -/
theorem comparisons_nil (hrest : EndsComparison rest) : Reads comparisons 1 rest [] rest := by
  intro fuel hfuel
  obtain ⟨n, rfl⟩ := Nat.exists_eq_add_of_le' hfuel
  rw [comparisons, hrest.comparison?_eq_none]

/-- An operand that is compared with nothing. -/
theorem inversion_operand
    (h : Reads (fun fuel => Expression.binary fuel binaryLevels) k ts e rest)
    (ht : BeginsOperand ts) (hrest : EndsComparison rest) :
    Reads inversion (k + 2) ts e rest := by
  intro fuel hfuel
  obtain ⟨n, rfl⟩ := Nat.exists_eq_add_of_le' hfuel
  have hoperand := h (n + k + 1) (by omega)
  have hnone := comparisons_nil hrest (n + k + 1) (by omega)
  rw [← Nat.add_assoc, inversion]
  · refine Option.bind_eq_some_iff.2 ⟨(e, rest), hoperand, ?_⟩
    exact Option.bind_eq_some_iff.2 ⟨([], rest), hnone, rfl⟩
  · rintro us rfl
    cases ht

/-- A comparison of two operands. -/
theorem inversion_comparison
    (h : Reads (fun fuel => Expression.binary fuel binaryLevels) k ts e mid)
    (ht : BeginsOperand ts) {us : List Token} (hc : comparison? mid = some (c, us))
    (hf : Reads (fun fuel => Expression.binary fuel binaryLevels) k us f rest)
    (hrest : EndsComparison rest) :
    Reads inversion (k + 3) ts (.compare e [(c, f)]) rest := by
  intro fuel hfuel
  obtain ⟨n, rfl⟩ := Nat.exists_eq_add_of_le' hfuel
  have hleft := h (n + k + 2) (by omega)
  have hright := hf (n + k + 1) (by omega)
  have hnone := comparisons_nil hrest (n + k + 1) (by omega)
  have hchain : comparisons (n + k + 2) mid = some ([(c, f)], rest) := by
    rw [comparisons, hc]
    refine Option.bind_eq_some_iff.2 ⟨(f, rest), hright, ?_⟩
    exact Option.bind_eq_some_iff.2 ⟨([], rest), hnone, rfl⟩
  rw [← Nat.add_assoc, inversion]
  · refine Option.bind_eq_some_iff.2 ⟨(e, mid), hleft, ?_⟩
    exact Option.bind_eq_some_iff.2 ⟨([(c, f)], rest), hchain, rfl⟩
  · rintro us rfl
    cases ht

/-- A negation. -/
theorem inversion_not (h : Reads inversion k ts e rest) :
    Reads inversion (k + 1) (.word .notWord :: ts) (.signed .not e) rest := by
  intro fuel hfuel
  obtain ⟨n, rfl⟩ := Nat.exists_eq_add_of_le' hfuel
  exact Option.bind_eq_some_iff.2 ⟨(e, rest), h (n + k) (by omega), rfl⟩

/-- Behind the last operand of a conjunction. -/
theorem moreInversions_nil (hrest : ∀ us, rest ≠ .word .andWord :: us) :
    Reads moreInversions 1 rest [] rest := by
  intro fuel hfuel
  obtain ⟨n, rfl⟩ := Nat.exists_eq_add_of_le' hfuel
  rw [moreInversions]
  exact hrest

/-- The word `and` and an operand, before the other operands. -/
theorem moreInversions_cons (h : Reads inversion k ts e mid)
    (hes : Reads moreInversions l mid es rest) (hl : k ≤ l) :
    Reads moreInversions (l + 1) (.word .andWord :: ts) (e :: es) rest := by
  intro fuel hfuel
  obtain ⟨n, rfl⟩ := Nat.exists_eq_add_of_le' hfuel
  refine Option.bind_eq_some_iff.2 ⟨(e, mid), h (n + l) (by omega), ?_⟩
  exact Option.bind_eq_some_iff.2 ⟨(es, rest), hes (n + l) (by omega), rfl⟩

/-- Operands of `and`. -/
theorem conjunction (h : Reads inversion k ts e mid) (hes : Reads moreInversions l mid es rest)
    (hl : k ≤ l) :
    Reads conjunction (l + 1) ts (if es.isEmpty then e else .all (e :: es)) rest := by
  intro fuel hfuel
  obtain ⟨n, rfl⟩ := Nat.exists_eq_add_of_le' hfuel
  refine Option.bind_eq_some_iff.2 ⟨(e, mid), h (n + l) (by omega), ?_⟩
  exact Option.bind_eq_some_iff.2 ⟨(es, rest), hes (n + l) (by omega), rfl⟩

/-- Behind the last operand of a disjunction. -/
theorem moreConjunctions_nil (hrest : ∀ us, rest ≠ .word .orWord :: us) :
    Reads moreConjunctions 1 rest [] rest := by
  intro fuel hfuel
  obtain ⟨n, rfl⟩ := Nat.exists_eq_add_of_le' hfuel
  rw [moreConjunctions]
  exact hrest

/-- The word `or` and an operand, before the other operands. -/
theorem moreConjunctions_cons (h : Reads Expression.conjunction k ts e mid)
    (hes : Reads moreConjunctions l mid es rest) (hl : k ≤ l) :
    Reads moreConjunctions (l + 1) (.word .orWord :: ts) (e :: es) rest := by
  intro fuel hfuel
  obtain ⟨n, rfl⟩ := Nat.exists_eq_add_of_le' hfuel
  refine Option.bind_eq_some_iff.2 ⟨(e, mid), h (n + l) (by omega), ?_⟩
  exact Option.bind_eq_some_iff.2 ⟨(es, rest), hes (n + l) (by omega), rfl⟩

/-- Operands of `or`. -/
theorem disjunction (h : Reads Expression.conjunction k ts e mid)
    (hes : Reads moreConjunctions l mid es rest) (hl : k ≤ l) :
    Reads disjunction (l + 1) ts (if es.isEmpty then e else .any (e :: es)) rest := by
  intro fuel hfuel
  obtain ⟨n, rfl⟩ := Nat.exists_eq_add_of_le' hfuel
  refine Option.bind_eq_some_iff.2 ⟨(e, mid), h (n + l) (by omega), ?_⟩
  exact Option.bind_eq_some_iff.2 ⟨(es, rest), hes (n + l) (by omega), rfl⟩

/-- A disjunction is an expression, if no `if` follows and it is no function. -/
theorem expression (h : Reads Expression.disjunction k ts e rest)
    (hts : ∀ us, ts ≠ .word .lambdaWord :: us) (hrest : EndsComparison rest) :
    Reads expression (k + 1) ts e rest := by
  intro fuel hfuel
  obtain ⟨n, rfl⟩ := Nat.exists_eq_add_of_le' hfuel
  rw [← Nat.add_assoc, Expression.expression]
  · refine Option.bind_eq_some_iff.2 ⟨(e, rest), h (n + k) (by omega), ?_⟩
    cases hrest <;> rfl
  · exact hts

end Reads

/-! ### Literals -/

/-- The tree of a text between single quotes. -/
def literal (s : List Char) : Expr := .constant (.text (.ofChars s))

/-- The token of a text between single quotes. -/
def literalToken (s : List Char) : Token := .quotation (quotation s)

/-- The tokens of literals with commas in front of them. -/
def moreLiteralTokens (ss : List (List Char)) : List Token :=
  ss.flatMap fun s => [.mark .comma, literalToken s]

/-- The tokens of literals with commas between them. -/
def literalTokens : List (List Char) → List Token
  | [] => []
  | s :: ss => literalToken s :: moreLiteralTokens ss

namespace Reads

/-- One text between single quotes is a constant. -/
theorem quoted_quotation (s : List Char) (n : Nat) :
    quoted (n + 3) [quotation s] = some (literal s) := by
  have hbytes : [quotation s].all Quotation.bytes = false := rfl
  have hformatted : [quotation s].any Quotation.formatted = false := rfl
  rw [quoted, hbytes, if_neg Bool.false_ne_true, hformatted, List.mapM_cons, pieces?_quotation]
  rfl

/-- A literal is an atom. -/
theorem atom_literal (s : List Char) (hrest : EndsOperand rest) :
    Reads atom 4 (literalToken s :: rest) (literal s) rest := by
  intro fuel hfuel
  obtain ⟨n, rfl⟩ := Nat.exists_eq_add_of_le' hfuel
  rw [literalToken, atom, hrest.quotations_eq]
  dsimp only
  rw [quoted_quotation]
  rfl

/-- A literal with no operator behind it. -/
theorem binary_literal (s : List Char) (hrest : EndsOperand rest) :
    Reads (fun fuel => Expression.binary fuel binaryLevels) 15 (literalToken s :: rest) (literal s)
      rest :=
  ((atom_literal s hrest).primary hrest).binary (.quotation _ _) hrest

/-- A literal in a list. -/
theorem item_literal (s : List Char) (hrest : EndsComparison rest)
    (hand : ∀ us, rest ≠ .word .andWord :: us) (hor : ∀ us, rest ≠ .word .orWord :: us) :
    Reads item 22 (literalToken s :: rest) (literal s) rest := by
  have hinversion := (binary_literal s (.comparison hrest)).inversion_operand (.quotation _ _) hrest
  have hconjunction := hinversion.conjunction ((moreInversions_nil hand).mono (l := 17) (by decide))
    (Nat.le_refl _)
  have hdisjunction := hconjunction.disjunction
    ((moreConjunctions_nil hor).mono (l := 18) (by decide)) (Nat.le_refl _)
  have hexpression := hdisjunction.expression (fun us => nofun) hrest
  intro fuel hfuel
  obtain ⟨n, rfl⟩ := Nat.exists_eq_add_of_le' hfuel
  exact hexpression (n + 20) (by omega)

/-- A literal of a list, with others or the bracket behind it, is an item. -/
theorem item_literal_more (s : List Char) (ss : List (List Char)) (rest : List Token) :
    Reads item 22 (literalToken s :: (moreLiteralTokens ss ++ .mark .rightBracket :: rest))
      (literal s) (moreLiteralTokens ss ++ .mark .rightBracket :: rest) := by
  cases ss with
  | nil => exact item_literal s (.rightBracket rest) (fun us => nofun) (fun us => nofun)
  | cons s' ss => exact item_literal s (.comma _) (fun us => nofun) (fun us => nofun)

/-- The literals behind the first are read up to the bracket, by induction on their list. -/
theorem moreItems_literals (ss : List (List Char)) (rest : List Token) :
    Reads (fun fuel => moreItems fuel .rightBracket) (22 + 2 * ss.length)
      (moreLiteralTokens ss ++ .mark .rightBracket :: rest) (ss.map literal) rest := by
  induction ss with
  | nil =>
    intro fuel hfuel
    obtain ⟨n, rfl⟩ := Nat.exists_eq_add_of_le' hfuel
    rfl
  | cons s ss ih =>
    intro fuel hfuel
    obtain ⟨n, rfl⟩ := Nat.exists_eq_add_of_le' hfuel
    have hn : n + (22 + 2 * (s :: ss).length) = n + 2 * ss.length + 22 + 1 + 1 := by
      rw [List.length_cons]
      omega
    have hitem := item_literal_more s ss rest (n + 2 * ss.length + 22) (by omega)
    have hmore := ih (n + 2 * ss.length + 22) (by omega)
    rw [hn]
    refine Option.bind_eq_some_iff.2 ⟨_, hitem, ?_⟩
    exact Option.bind_eq_some_iff.2 ⟨_, hmore, rfl⟩

/-- A list of literals. -/
theorem atom_literals (ss : List (List Char)) (rest : List Token) :
    Reads atom (24 + 2 * ss.length)
      (.mark .leftBracket :: (literalTokens ss ++ .mark .rightBracket :: rest))
      (.list (ss.map literal)) rest := by
  intro fuel hfuel
  obtain ⟨n, rfl⟩ := Nat.exists_eq_add_of_le' hfuel
  cases ss with
  | nil => rfl
  | cons s ss =>
    have hn : n + (24 + 2 * (s :: ss).length) = n + 2 * ss.length + 24 + 1 + 1 := by
      rw [List.length_cons]
      omega
    have hitem := item_literal_more s ss rest (n + 2 * ss.length + 24) (by omega)
    have hmore := moreItems_literals ss rest (n + 2 * ss.length + 24) (by omega)
    rw [hn]
    refine Option.bind_eq_some_iff.2 ⟨_, hitem, ?_⟩
    cases ss <;> exact Option.bind_eq_some_iff.2 ⟨_, hmore, rfl⟩

end Reads
end Expression
end WorkflowKit
