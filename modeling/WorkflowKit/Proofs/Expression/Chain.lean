/-
# Chains of comparisons

A chain says that each two of its operands that stand side by side compare as they should
(`Expr.pairs`), and it has the outcome of the conjunction of these pairs: the same truth value, or
the same fault (`eval_all_pairs`).  An operand between two comparisons stands in two pairs, so the
conjunction evaluates it twice, with the same outcome.

Both go on from one pair to the next only where the pair holds (`goesOn_or_ends`).  So nothing is
evaluated behind the first pair that does not hold: what stands there may have a fault, or lie too
deep.  The conjunction takes three levels more than the chain.
-/

import WorkflowKit.Expression.Source

namespace WorkflowKit

/-- The pairs of operands of a chain that stand side by side, each compared on its own. -/
def Expr.pairs (first : Expr) : List (Expression.Comparison × Expr) → List Expr
  | [] => []
  | (c, e) :: rest => .compare first [(c, e)] :: e.pairs rest

namespace Expression

variable {vars : Variables} {e : Expr} {s : Comparison × Expr} {rest : List (Comparison × Expr)}

/-- The first pair of a chain holds, and the rest of the chain decides. -/
structure GoesOn (vars : Variables) (e : Expr) (s : Comparison × Expr) : Prop where
  /-- The pair holds. -/
  holds : eval vars (.compare e [s]) = .ok (.bool true)
  /-- The outcome is that of the rest. -/
  eval_cons : ∀ rest, eval vars (.compare e (s :: rest)) = eval vars (.compare s.2 rest)
  /-- What lies too deep lies in the pair or in the rest. -/
  overrun?_cons : ∀ room rest, overrun? vars room (.compare e (s :: rest)) =
    (overrun? vars room (.compare e [s]) <|> overrun? vars room (.compare s.2 rest))

/-- The first pair of a chain does not hold, and the rest of the chain does not count. -/
structure Ends (vars : Variables) (e : Expr) (s : Comparison × Expr) : Prop where
  /-- The pair does not hold. -/
  fails : eval vars (.compare e [s]) ≠ .ok (.bool true)
  /-- The outcome is that of the pair. -/
  eval_cons : ∀ rest, eval vars (.compare e (s :: rest)) = eval vars (.compare e [s])
  /-- What lies too deep lies in the pair. -/
  overrun?_cons : ∀ room rest, overrun? vars room (.compare e (s :: rest)) =
    overrun? vars room (.compare e [s])

section

attribute [local simp] bind Except.bind eval evalChain overrun? overrunChain?

theorem eval_compare_of_ok {left : Value} (he : eval vars e = .ok left)
    (rest : List (Comparison × Expr)) :
    eval vars (.compare e rest) = .bool <$> evalChain vars left rest := by
  rw [eval, he]
  rfl

theorem overrun?_compare_of_ok {left : Value} (he : eval vars e = .ok left) (room : Nat)
    (rest : List (Comparison × Expr)) :
    overrun? vars (room + 1) (.compare e rest) =
      (overrun? vars (room - 1) e <|> overrunChain? vars (room - 1) left rest) := by
  rw [overrun?, he]

/-- A chain ends behind its first pair if what it says from there on counts for nothing. -/
theorem Ends.of_ok {left : Value} {r : Except Fault Bool} (he : eval vars e = .ok left)
    (hr : r ≠ .ok true) (heval : ∀ rest, evalChain vars left (s :: rest) = r)
    (hoverrun : ∀ room rest,
      overrunChain? vars room left (s :: rest) = overrunChain? vars room left [s]) :
    Ends vars e s where
  fails := by
    rw [eval_compare_of_ok he, heval]
    cases r with
    | error f => rintro ⟨⟩
    | ok b =>
      rintro ⟨⟩
      exact hr rfl
  eval_cons rest := by rw [eval_compare_of_ok he, eval_compare_of_ok he, heval, heval]
  overrun?_cons room rest := by
    cases room with
    | zero => rfl
    | succ room => rw [overrun?_compare_of_ok he, overrun?_compare_of_ok he, hoverrun]

/-- A chain goes on behind its first pair if the comparison holds. -/
theorem GoesOn.of_ok {left right : Value} {test : Value → Value → Option Bool}
    (he : eval vars e = .ok left) (hc : s.1.test? = some test) (hx : eval vars s.2 = .ok right)
    (hcompare : compareValues s.1 test left right = .ok true) : GoesOn vars e s := by
  obtain ⟨c, x⟩ := s
  have heval (rest : List (Comparison × Expr)) :
      evalChain vars left ((c, x) :: rest) = evalChain vars right rest := by
    simp [hc, hx, hcompare]
  have hoverrun (room : Nat) (rest : List (Comparison × Expr)) :
      overrunChain? vars room left ((c, x) :: rest) =
        (overrun? vars room x <|> overrunChain? vars room right rest) := by
    simp [hc, hx, hcompare]
  refine ⟨?_, fun rest => ?_, fun room rest => ?_⟩
  · rw [eval_compare_of_ok he, heval]
    rfl
  · rw [eval_compare_of_ok he, eval_compare_of_ok hx, heval]
  · cases room with
    | zero => rfl
    | succ room =>
      rw [overrun?_compare_of_ok he, overrun?_compare_of_ok he, overrun?_compare_of_ok hx,
        hoverrun, hoverrun]
      cases overrun? vars (room - 1) e <;> cases overrun? vars (room - 1) x <;> rfl

/-- **A chain goes on behind its first pair, or ends there.** -/
theorem goesOn_or_ends (vars : Variables) (e : Expr) (s : Comparison × Expr) :
    GoesOn vars e s ∨ Ends vars e s := by
  cases he : eval vars e with
  | error f =>
    refine .inr ⟨?_, fun rest => ?_, fun room rest => ?_⟩
    · simp [he]
    · simp [he]
    · cases room <;> simp [he]
  | ok left =>
    cases hc : s.1.test? with
    | none =>
      exact .inr (.of_ok he (r := .error (.unsupported s.1.unsupportedName)) (by simp)
        (fun rest => by simp [hc]) fun room rest => by simp [hc])
    | some test =>
      cases hx : eval vars s.2 with
      | error f =>
        exact .inr (.of_ok he (r := .error f) (by simp)
          (fun rest => by simp [hc, hx])
          fun room rest => by simp [hc, hx])
      | ok right =>
        cases hcompare : compareValues s.1 test left right with
        | error f =>
          exact .inr (.of_ok he (r := .error f) (by simp)
            (fun rest => by simp [hc, hx, hcompare])
            fun room rest => by simp [hc, hx, hcompare])
        | ok b =>
          cases b with
          | true => exact .inl (.of_ok he hc hx hcompare)
          | false =>
            exact .inr (.of_ok he (r := .ok false) (by simp)
              (fun rest => by simp [hc, hx, hcompare])
              fun room rest => by simp [hc, hx, hcompare])

end

/-- A chain gives a truth value or a fault. -/
theorem eval_compare_cases (vars : Variables) (e : Expr) (rest : List (Comparison × Expr)) :
    (∃ b, eval vars (.compare e rest) = .ok (.bool b)) ∨
      ∃ f, eval vars (.compare e rest) = .error f := by
  cases he : eval vars e with
  | error f => exact .inr ⟨f, by rw [eval, he]; rfl⟩
  | ok left =>
    rw [eval_compare_of_ok he]
    cases evalChain vars left rest with
    | error f => exact .inr ⟨f, rfl⟩
    | ok b => exact .inl ⟨b, rfl⟩

/-- A conjunction whose first operand is a chain that holds has the outcome of the others. -/
theorem eval_all_cons_of_true {p : Expr} {ps : List Expr} (hp : eval vars p = .ok (.bool true)) :
    eval vars (.all (p :: ps)) = eval vars (.all ps) := by
  rw [eval, eval, evalAll, hp]
  rfl

/-- A conjunction ends behind an operand that is a chain and does not hold. -/
theorem eval_all_cons_compare (hfails : eval vars (.compare e rest) ≠ .ok (.bool true))
    (ps : List Expr) : eval vars (.all (.compare e rest :: ps)) = eval vars (.compare e rest) := by
  rw [eval, evalAll]
  obtain ⟨b, hb⟩ | ⟨f, hf⟩ := eval_compare_cases vars e rest
  · cases b with
    | true => exact absurd hb hfails
    | false =>
      rw [hb]
      rfl
  · rw [hf]
    rfl

/-- **The conjunction of the pairs of a chain has the outcome of the chain.** -/
theorem eval_all_pairs_cons (vars : Variables) (e : Expr) (s : Comparison × Expr)
    (rest : List (Comparison × Expr)) :
    eval vars (.all (e.pairs (s :: rest))) = eval vars (.compare e (s :: rest)) := by
  induction rest generalizing e s with
  | nil =>
    show eval vars (.all [.compare e [s]]) = _
    by_cases h : eval vars (.compare e [s]) = .ok (.bool true)
    · rw [eval_all_cons_of_true h, h]
      rfl
    · exact eval_all_cons_compare h []
  | cons t rest ih =>
    show eval vars (.all (.compare e [s] :: s.2.pairs (t :: rest))) = _
    obtain h | h := goesOn_or_ends vars e s
    · rw [eval_all_cons_of_true h.holds, ih, h.eval_cons]
    · rw [eval_all_cons_compare h.fails, h.eval_cons (t :: rest)]

/-- The operands of a conjunction behind a chain that does not hold are not evaluated. -/
theorem overrunOperands?_cons_compare (hfails : eval vars (.compare e rest) ≠ .ok (.bool true))
    (room : Nat) (ps : List Expr) :
    overrunOperands? vars room true (.compare e rest :: ps) =
      overrun? vars room (.compare e rest) := by
  rw [overrunOperands?]
  obtain ⟨b, hb⟩ | ⟨f, hf⟩ := eval_compare_cases vars e rest
  · cases b with
    | true => exact absurd hb hfails
    | false =>
      simp [hb, Value.isTruthy]
  · simp [hf]

theorem overrunOperands?_cons_of_true {p : Expr} {ps : List Expr}
    (hp : eval vars p = .ok (.bool true)) (room : Nat) :
    overrunOperands? vars room true (p :: ps) =
      (overrun? vars room p <|> overrunOperands? vars room true ps) := by
  rw [overrunOperands?, hp]
  rfl

/-- **The operands of the conjunction come to too many levels where the chain does.** -/
theorem overrunOperands?_pairs (vars : Variables) (room : Nat) (e : Expr) (s : Comparison × Expr)
    (rest : List (Comparison × Expr)) :
    overrunOperands? vars room true (e.pairs (s :: rest)) =
      overrun? vars room (.compare e (s :: rest)) := by
  induction rest generalizing e s with
  | nil =>
    show overrunOperands? vars room true [.compare e [s]] = _
    by_cases h : eval vars (.compare e [s]) = .ok (.bool true)
    · rw [overrunOperands?_cons_of_true h]
      simp [overrunOperands?]
    · exact overrunOperands?_cons_compare h room []
  | cons t rest ih =>
    show overrunOperands? vars room true (.compare e [s] :: s.2.pairs (t :: rest)) = _
    obtain h | h := goesOn_or_ends vars e s
    · rw [overrunOperands?_cons_of_true h.holds, ih, h.overrun?_cons room (t :: rest)]
    · rw [overrunOperands?_cons_compare h.fails, h.overrun?_cons room (t :: rest)]

/-- Nothing is evaluated behind a part of a chain that does not hold. -/
theorem compare_append_of_fails {before : List (Comparison × Expr)}
    (h : eval vars (.compare e before) ≠ .ok (.bool true)) (after : List (Comparison × Expr)) :
    eval vars (.compare e (before ++ after)) = eval vars (.compare e before) ∧
      ∀ room, overrun? vars room (.compare e (before ++ after)) =
        overrun? vars room (.compare e before) := by
  induction before generalizing e with
  | nil =>
    cases he : eval vars e with
    | ok left => exact absurd (eval_compare_of_ok he []) h
    | error f =>
      refine ⟨by rw [eval, eval, he]; rfl, fun room => ?_⟩
      cases room with
      | zero => rfl
      | succ room => rw [overrun?, overrun?, he]
  | cons s before ih =>
    rw [List.cons_append]
    obtain hs | hs := goesOn_or_ends vars e s
    · rw [hs.eval_cons] at h
      obtain ⟨heval, hoverrun⟩ := ih h
      refine ⟨by rw [hs.eval_cons, hs.eval_cons, heval], fun room => ?_⟩
      rw [hs.overrun?_cons, hs.overrun?_cons room before, hoverrun]
    · refine ⟨(hs.eval_cons _).trans (hs.eval_cons _).symm, fun room => ?_⟩
      rw [hs.overrun?_cons, hs.overrun?_cons room before]

/-- **A chain means that all its pairs hold.**  First, the chain has the outcome of the conjunction
of its pairs, be it a truth value or a fault.  Second, the conjunction comes to too many levels
where the chain does, if it has three levels more.  Third, nothing is evaluated behind a part of the
chain that does not hold. -/
theorem eval_all_pairs (vars : Variables) (e : Expr) (s : Comparison × Expr)
    (rest : List (Comparison × Expr)) :
    eval vars (.all (e.pairs (s :: rest))) = eval vars (.compare e (s :: rest)) ∧
      (∀ room, overrun? vars (room + 3) (.all (e.pairs (s :: rest))) =
        overrun? vars room (.compare e (s :: rest))) ∧
      ∀ before after, s :: rest = before ++ after →
        eval vars (.compare e before) ≠ .ok (.bool true) →
          eval vars (.compare e (s :: rest)) = eval vars (.compare e before) ∧
            ∀ room, overrun? vars room (.compare e (s :: rest)) =
              overrun? vars room (.compare e before) := by
  refine ⟨eval_all_pairs_cons vars e s rest, fun room => ?_, fun before after hsplit hfails => ?_⟩
  · rw [overrun?, Nat.add_sub_cancel, overrunOperands?_pairs]
  · rw [hsplit]
    exact compare_append_of_fails hfails after

/-- The chain `1 == 2 == x` ends behind its first pair, so it needs no value of `x`. -/
theorem eval_all_pairs_unknown :
    let one : Expr := .constant (.int 1)
    let two : Comparison × Expr := (.eq, .constant (.int 2))
    let unknown : Comparison × Expr := (.eq, .name "x")
    eval [] (.compare one [two]) ≠ .ok (.bool true) ∧
      eval [] unknown.2 = .error (.unknownVariable "x") ∧
      eval [] (.all (one.pairs [two, unknown])) = .ok (.bool false) ∧
      eval [] (.compare one [two, unknown]) = .ok (.bool false) := by
  intro one two unknown
  have hfalse : eval [] (.compare one [two]) = .ok (.bool false) := rfl
  have hfails : eval [] (.compare one [two]) ≠ .ok (.bool true) := by
    rw [hfalse]
    simp
  obtain ⟨hpairs, -, hends⟩ := eval_all_pairs [] one two [unknown]
  have hchain := (hends [two] [unknown] rfl hfails).1.trans hfalse
  exact ⟨hfails, rfl, hpairs.trans hchain, hchain⟩

end Expression
end WorkflowKit
