/-
# The text constants of a tree

The text constants of a tree are, from left to right, the texts that its tokens write
(`exists_writes`).  Every reader of the grammar adds what it reads to the texts of the tokens
behind it (`Adds`); those that are given a tree add the rest to it (`AddsTo`).  `Sums fuel` collects
this of all readers with one bound on the depth of their calls, so that the induction is on the
bound, and each reader is a step of its own.
-/

import WorkflowKit.Proofs.Expression.Texts

namespace WorkflowKit
namespace Expression

open WorkflowKit.Expr (textsOf textsOfChain)

/-- The text constants of what is read come before those of the tokens behind it. -/
def Adds {α : Type} (texts : α → List Text) (read : List Token → Option (α × List Token)) : Prop :=
  ∀ ⦃ts a rest ss⦄, read ts = some (a, rest) → Writes rest ss → Writes ts (texts a ++ ss)

/-- The text constants of what is read, `e` being read already. -/
def AddsTo (e : Expr) (read : List Token → Option (Expr × List Token)) : Prop :=
  ∀ ⦃ts f rest ss⦄, read ts = some (f, rest) → Writes rest ss →
    ∃ us, Writes ts us ∧ e.texts ++ us = f.texts ++ ss

/-- The text constants of the arguments of a call. -/
def argumentTexts (es : List (Bool × Expr)) : List Text := textsOf (es.map Prod.snd)

/-- What the readers with a bound on the depth of their calls do with text constants. -/
structure Sums (fuel : Nat) : Prop where
  expression : Adds Expr.texts (expression fuel)
  disjunction : Adds Expr.texts (disjunction fuel)
  moreConjunctions : Adds textsOf (moreConjunctions fuel)
  conjunction : Adds Expr.texts (conjunction fuel)
  moreInversions : Adds textsOf (moreInversions fuel)
  inversion : Adds Expr.texts (inversion fuel)
  comparisons : Adds textsOfChain (comparisons fuel)
  binary (levels : List (List Mark)) : Adds Expr.texts (binary fuel levels)
  moreOperands (level : List Mark) (tighter : List (List Mark)) (left : Expr) :
    AddsTo left (moreOperands fuel level tighter left)
  factor : Adds Expr.texts (factor fuel)
  awaited : Adds Expr.texts (awaited fuel)
  primary : Adds Expr.texts (primary fuel)
  trailers (e : Expr) : AddsTo e (trailers fuel e)
  atom : Adds Expr.texts (atom fuel)
  quoted {qs : List Quotation} {e : Expr} {rs : List (List Quotation)} {ss : List Text} :
    quoted fuel qs = some e → (Script.rows rs).Says ss →
      (Script.rows (qs :: rs)).Says (e.texts ++ ss)
  pieces {ps : List Piece} {es : List Expr} :
    pieces fuel ps = some es → (Script.pieces ps).Says (textsOf es)
  named : Adds Expr.texts (named fuel)
  item : Adds Expr.texts (item fuel)
  items (close : Mark) : Adds textsOf (items fuel close)
  moreItems (close : Mark) : Adds textsOf (moreItems fuel close)
  parenthesized : Adds Expr.texts (parenthesized fuel)
  bracketed : Adds Expr.texts (bracketed fuel)
  braced : Adds Expr.texts (braced fuel)
  setFrom (e : Expr) : AddsTo e (setFrom fuel e)
  entries : Adds textsOf (entries fuel)
  moreEntries : Adds textsOf (moreEntries fuel)
  computed (form : Form) (close : Mark) (e : Expr) : AddsTo e (computed fuel form close e)
  clauses : Adds textsOf (clauses fuel)
  clause : Adds textsOf (clause fuel)
  conditions : Adds textsOf (conditions fuel)
  targets : Adds textsOf (targets fuel)
  target : Adds Expr.texts (target fuel)
  yielded : Adds Expr.texts (yielded fuel)
  yieldedItem : Adds Expr.texts (yieldedItem fuel)
  yieldedItems : Adds textsOf (yieldedItems fuel)
  slices : Adds textsOf (slices fuel)
  slice : Adds textsOf (slice fuel)
  bounds : Adds textsOf (bounds fuel)
  bound : Adds textsOf (bound fuel)
  arguments (which : Arguments) : Adds argumentTexts (arguments fuel which)
  moreArguments (which : Arguments) : Adds argumentTexts (moreArguments fuel which)
  parameters (p : Parameters) : Adds textsOf (parameters fuel p)
  moreParameters (p : Parameters) : Adds textsOf (moreParameters fuel p)

/-- A reader that reads nothing adds no text constants.  So it is with all readers when the bound on
their calls is zero. -/
theorem Adds.of_none {α : Type} {texts : α → List Text}
    {read : List Token → Option (α × List Token)} (h : ∀ ts, read ts = none) : Adds texts read :=
  fun ts _ _ _ hread => nomatch (h ts).symm.trans hread

/-- A reader that is given a tree and reads nothing adds no text constants to it. -/
theorem AddsTo.of_none {e : Expr} {read : List Token → Option (Expr × List Token)}
    (h : ∀ ts, read ts = none) : AddsTo e read :=
  fun ts _ _ _ hread => nomatch (h ts).symm.trans hread

variable {fuel : Nat} {ts us : List Token} {ss : List Text}

/-! ### Tokens that are no texts -/

/-- What a reader reads in two steps was read by the first of them, and by the second from what the
first has left. -/
theorem exists_of_bind {α β γ : Type} {x : Option (α × β)} {f : α × β → Option γ} {c : γ}
    (h : x.bind f = some c) : ∃ a b, x = some (a, b) ∧ f (a, b) = some c := by
  obtain ⟨⟨a, b⟩, hx, hf⟩ := Option.bind_eq_some_iff.1 h
  exact ⟨a, b, hx, hf⟩

/-- A mark that is passed over is the first token. -/
theorem eq_of_behind? {m : Mark} (h : behind? m ts = some us) : ts = .mark m :: us := by
  unfold behind? at h
  split at h
  · split at h <;> simp_all
  · cases h

/-- An operator is one of the marks of its level. -/
theorem exists_of_operator? {level : List Mark} (h : operator? level ts = some us) :
    ∃ m, ts = .mark m :: us := by
  unfold operator? at h
  split at h
  · split at h <;> simp_all
  · cases h

/-- A sign before an operand is a mark. -/
theorem exists_of_sign? {s : Sign} (h : sign? ts = some (s, us)) : ∃ m, ts = .mark m :: us := by
  unfold sign? at h
  split at h <;> simp_all

namespace Writes

/-- A mark writes no text, so that the texts behind it are those of the whole. -/
theorem mark (h : Writes ts ss) (m : Mark) : Writes (.mark m :: ts) ss := h.silent rfl

/-- A word of the grammar writes no text. -/
theorem word (h : Writes ts ss) (w : Word) : Writes (.word w :: ts) ss := h.silent rfl

/-- A name writes no text. -/
theorem name (h : Writes ts ss) (x : String) : Writes (.name x :: ts) ss := h.silent rfl

/-- Behind a mark the same texts are written as with it. -/
theorem behind {m : Mark} (h : behind? m ts = some us) (hus : Writes us ss) : Writes ts ss :=
  eq_of_behind? h ▸ hus.mark m

/-- The one or two tokens of a comparison write no text. -/
theorem comparison {c : Comparison} (h : comparison? ts = some (c, us)) (hus : Writes us ss) :
    Writes ts ss := by
  unfold comparison? at h
  split at h <;> cases h
  case h_8 | h_9 => exact (hus.word _).word _
  case h_7 | h_10 => exact hus.word _
  all_goals exact hus.mark _

end Writes

namespace Sums

/-! ### From an expression to an operand -/

/-- An expression is a lambda, or a disjunction with perhaps a condition and an alternative behind
it, which all stand in the order of their tokens. -/
theorem expression_succ (h : Sums fuel) : Adds Expr.texts (Expression.expression (fuel + 1)) := by
  intro ts e rest ss hread hrest
  unfold Expression.expression at hread
  split at hread
  · cases ‹fuel + 1 = 0›
  · cases ‹fuel + 1 = _ + 1›
    obtain ⟨es, us, hes, hread⟩ := exists_of_bind hread
    obtain ⟨vs, hvs, hread⟩ := Option.bind_eq_some_iff.1 hread
    obtain ⟨f, ws, hf, hread⟩ := exists_of_bind hread
    cases hread
    simpa using (h.parameters _ hes (.behind hvs (h.expression hf hrest))).word .lambdaWord
  · cases ‹fuel + 1 = _ + 1›
    obtain ⟨e, us, he, hread⟩ := exists_of_bind hread
    dsimp only at hread
    split at hread
    · obtain ⟨c, vs, hc, hread⟩ := exists_of_bind hread
      dsimp only at hread
      split at hread
      · obtain ⟨f, ws, hf, hread⟩ := exists_of_bind hread
        cases hread
        have helse := (h.expression hf hrest).word .elseWord
        simpa using h.disjunction he ((h.disjunction hc helse).word .ifWord)
      · cases hread
    · cases hread
      exact h.disjunction he hrest

/-- A disjunction has the text constants of its first conjunction and then those behind each `or`.
-/
theorem disjunction_succ (h : Sums fuel) : Adds Expr.texts (Expression.disjunction (fuel + 1)) := by
  intro ts e rest ss hread hrest
  rw [Expression.disjunction] at hread
  obtain ⟨e, us, he, hread⟩ := exists_of_bind hread
  obtain ⟨es, vs, hes, hread⟩ := exists_of_bind hread
  cases hread
  have hall := h.conjunction he (h.moreConjunctions hes hrest)
  cases es <;> simpa using hall

/-- The conjunctions behind `or` are read one after the other. -/
theorem moreConjunctions_succ (h : Sums fuel) :
    Adds textsOf (Expression.moreConjunctions (fuel + 1)) := by
  intro ts es rest ss hread hrest
  unfold Expression.moreConjunctions at hread
  split at hread
  · cases ‹fuel + 1 = 0›
  · cases ‹fuel + 1 = _ + 1›
    obtain ⟨e, us, he, hread⟩ := exists_of_bind hread
    obtain ⟨es, vs, hes, hread⟩ := exists_of_bind hread
    cases hread
    simpa using (h.conjunction he (h.moreConjunctions hes hrest)).word .orWord
  · cases hread
    exact hrest

/-- A conjunction has the text constants of its first inversion and then those behind each `and`. -/
theorem conjunction_succ (h : Sums fuel) : Adds Expr.texts (Expression.conjunction (fuel + 1)) := by
  intro ts e rest ss hread hrest
  rw [Expression.conjunction] at hread
  obtain ⟨e, us, he, hread⟩ := exists_of_bind hread
  obtain ⟨es, vs, hes, hread⟩ := exists_of_bind hread
  cases hread
  have hall := h.inversion he (h.moreInversions hes hrest)
  cases es <;> simpa using hall

/-- The inversions behind `and` are read one after the other. -/
theorem moreInversions_succ (h : Sums fuel) :
    Adds textsOf (Expression.moreInversions (fuel + 1)) := by
  intro ts es rest ss hread hrest
  unfold Expression.moreInversions at hread
  split at hread
  · cases ‹fuel + 1 = 0›
  · cases ‹fuel + 1 = _ + 1›
    obtain ⟨e, us, he, hread⟩ := exists_of_bind hread
    obtain ⟨es, vs, hes, hread⟩ := exists_of_bind hread
    cases hread
    simpa using (h.inversion he (h.moreInversions hes hrest)).word .andWord
  · cases hread
    exact hrest

/-- A negation has the text constants of what is negated; without `not` there are comparisons. -/
theorem inversion_succ (h : Sums fuel) : Adds Expr.texts (Expression.inversion (fuel + 1)) := by
  intro ts e rest ss hread hrest
  unfold Expression.inversion at hread
  split at hread
  · cases ‹fuel + 1 = 0›
  · cases ‹fuel + 1 = _ + 1›
    obtain ⟨e, us, he, hread⟩ := exists_of_bind hread
    cases hread
    exact (h.inversion he hrest).word .notWord
  · cases ‹fuel + 1 = _ + 1›
    obtain ⟨e, us, he, hread⟩ := exists_of_bind hread
    obtain ⟨cs, vs, hcs, hread⟩ := exists_of_bind hread
    cases hread
    have hall := h.binary _ he (h.comparisons hcs hrest)
    cases cs <;> simpa using hall

/-- The operands of a chain of comparisons are read in the order in which they stand. -/
theorem comparisons_succ (h : Sums fuel) :
    Adds textsOfChain (Expression.comparisons (fuel + 1)) := by
  intro ts cs rest ss hread hrest
  rw [Expression.comparisons] at hread
  split at hread
  · cases hread
    exact hrest
  · next c us hc =>
    obtain ⟨e, vs, he, hread⟩ := exists_of_bind hread
    obtain ⟨cs, ws, hcs, hread⟩ := exists_of_bind hread
    cases hread
    simpa using Writes.comparison hc (h.binary _ he (h.comparisons hcs hrest))

/-- An operation of some level has the text constants of its operands, of which the left one is read
first. -/
theorem binary_succ (h : Sums fuel) (levels : List (List Mark)) :
    Adds Expr.texts (Expression.binary (fuel + 1) levels) := by
  intro ts e rest ss hread hrest
  cases levels with
  | nil =>
    rw [Expression.binary] at hread
    exact h.factor hread hrest
  | cons level tighter =>
    rw [Expression.binary] at hread
    obtain ⟨left, us, hleft, hread⟩ := exists_of_bind hread
    obtain ⟨ws, hws, heq⟩ := h.moreOperands level tighter left hread hrest
    exact heq ▸ h.binary tighter hleft hws

/-- The operands behind the first one are added to what stands on their left. -/
theorem moreOperands_succ (h : Sums fuel) (level : List Mark) (tighter : List (List Mark))
    (left : Expr) : AddsTo left (Expression.moreOperands (fuel + 1) level tighter left) := by
  intro ts e rest ss hread hrest
  rw [Expression.moreOperands] at hread
  split at hread
  · cases hread
    exact ⟨ss, hrest, rfl⟩
  · next us hus =>
    obtain ⟨m, rfl⟩ := exists_of_operator? hus
    obtain ⟨right, vs, hright, hread⟩ := exists_of_bind hread
    obtain ⟨ws, hws, heq⟩ := h.moreOperands level tighter _ hread hrest
    exact ⟨_, (h.binary tighter hright hws).mark m, by simpa using heq⟩

/-- A signed factor has the text constants of its operand, and a power those of base and exponent.
-/
theorem factor_succ (h : Sums fuel) : Adds Expr.texts (Expression.factor (fuel + 1)) := by
  intro ts e rest ss hread hrest
  rw [Expression.factor] at hread
  split at hread
  · next s us hs =>
    obtain ⟨m, rfl⟩ := exists_of_sign? hs
    obtain ⟨e, vs, he, hread⟩ := exists_of_bind hread
    cases hread
    exact (h.factor he hrest).mark m
  · obtain ⟨e, us, he, hread⟩ := exists_of_bind hread
    dsimp only at hread
    split at hread
    · cases hread
      exact h.awaited he hrest
    · next vs hvs =>
      obtain ⟨f, ws, hf, hread⟩ := exists_of_bind hread
      cases hread
      simpa using h.awaited he (.behind hvs (h.factor hf hrest))

/-- An awaited value has the text constants of the value. -/
theorem awaited_succ (h : Sums fuel) : Adds Expr.texts (Expression.awaited (fuel + 1)) := by
  intro ts e rest ss hread hrest
  unfold Expression.awaited at hread
  split at hread
  · cases ‹fuel + 1 = 0›
  · cases ‹fuel + 1 = _ + 1›
    obtain ⟨e, us, he, hread⟩ := exists_of_bind hread
    cases hread
    simpa using (h.primary he hrest).word .awaitWord
  · cases ‹fuel + 1 = _ + 1›
    exact h.primary hread hrest

/-- A primary is an atom with whatever trails it. -/
theorem primary_succ (h : Sums fuel) : Adds Expr.texts (Expression.primary (fuel + 1)) := by
  intro ts e rest ss hread hrest
  rw [Expression.primary] at hread
  obtain ⟨e, us, he, hread⟩ := exists_of_bind hread
  obtain ⟨ws, hws, heq⟩ := h.trailers e hread hrest
  exact heq ▸ h.atom he hws

/-- A call has the text constants of what is called and then those of its arguments, with and
without names. -/
theorem texts_callOf (e : Expr) (es : List (Bool × Expr)) :
    (callOf e es).texts = e.texts ++ argumentTexts es := by
  rw [callOf, Expr.texts, List.append_assoc, ← Expr.textsOf_append, ← List.map_append,
    List.takeWhile_append_dropWhile, argumentTexts]

/-- Attributes, calls and subscripts are added to what they trail. -/
theorem trailers_succ (h : Sums fuel) (e : Expr) :
    AddsTo e (Expression.trailers (fuel + 1) e) := by
  intro ts f rest ss hread hrest
  unfold Expression.trailers at hread
  split at hread
  · cases ‹fuel + 1 = 0›
  · cases ‹fuel + 1 = _ + 1›
    split at hread
    · obtain ⟨ws, hws, heq⟩ := h.trailers _ hread hrest
      exact ⟨ws, (hws.name _).mark .dot, heq⟩
    · cases hread
  · cases ‹fuel + 1 = _ + 1›
    obtain ⟨es, us, hes, hread⟩ := exists_of_bind hread
    obtain ⟨ws, hws, heq⟩ := h.trailers _ hread hrest
    rw [texts_callOf, List.append_assoc] at heq
    exact ⟨_, (h.arguments .first hes hws).mark .leftParen, heq⟩
  · cases ‹fuel + 1 = _ + 1›
    obtain ⟨es, us, hes, hread⟩ := exists_of_bind hread
    obtain ⟨ws, hws, heq⟩ := h.trailers _ hread hrest
    exact ⟨_, (h.slices hes hws).mark .leftBracket, by simpa using heq⟩
  · cases hread
    exact ⟨ss, hrest, rfl⟩

/-! ### Atoms -/

/-- A numeral is no text constant. -/
theorem texts_numeral (n : Numeral) : (Expr.constant n.constant).texts = [] := by
  cases n <;> rfl

/-- An atom is a name, a numeral, a word for a value, a row of texts between quotes, or something
between brackets. -/
theorem atom_succ (h : Sums fuel) : Adds Expr.texts (Expression.atom (fuel + 1)) := by
  intro ts e rest ss hread hrest
  unfold Expression.atom at hread
  split at hread
  · cases ‹fuel + 1 = 0›
  · cases hread
    exact hrest.name _
  · cases hread
    exact hrest.word _
  · cases hread
    exact hrest.word _
  · cases hread
    exact hrest.word _
  · cases hread
    rw [texts_numeral]
    exact hrest.silent rfl
  · cases hread
    exact hrest.mark _
  · cases ‹fuel + 1 = _ + 1›
    obtain ⟨e, he, hread⟩ := Option.bind_eq_some_iff.1 hread
    cases hread
    exact hrest.row (h.quoted he)
  · cases ‹fuel + 1 = _ + 1›
    exact (h.parenthesized hread hrest).mark _
  · cases ‹fuel + 1 = _ + 1›
    exact (h.bracketed hread hrest).mark _
  · cases ‹fuel + 1 = _ + 1›
    exact (h.braced hread hrest).mark _
  · cases hread

/-- A row of texts between quotes is one text constant, unless one of them is formatted: then it has
those of the expressions in it. -/
theorem quoted_succ (h : Sums fuel) {qs : List Quotation} {e : Expr} {rs : List (List Quotation)}
    {ss : List Text} (hread : Expression.quoted (fuel + 1) qs = some e)
    (hrest : (Script.rows rs).Says ss) : (Script.rows (qs :: rs)).Says (e.texts ++ ss) := by
  rw [Expression.quoted] at hread
  split at hread
  · next hbytes =>
    split at hread
    · cases hread
      exact .bytes hbytes hrest
    · cases hread
  · next hbytes =>
    have hbytes := Bool.eq_false_iff.2 hbytes
    obtain ⟨pss, hpieces, hread⟩ := Option.bind_eq_some_iff.1 hread
    split at hread
    · next hformatted =>
      obtain ⟨es, hes, hread⟩ := Option.bind_eq_some_iff.1 hread
      cases hread
      exact .formatted hbytes hpieces hformatted (h.pieces hes) hrest
    · next hformatted =>
      cases hread
      exact .joined hbytes hpieces (Bool.eq_false_iff.2 hformatted) hrest

/-- The pieces of a formatted text have the text constants of their expressions, and those of the
formats behind these. -/
theorem pieces_succ (h : Sums fuel) {ps : List Piece} {es : List Expr}
    (hread : Expression.pieces (fuel + 1) ps = some es) :
    (Script.pieces ps).Says (textsOf es) := by
  cases ps with
  | nil =>
    rw [Expression.pieces] at hread
    cases hread
    exact .noPieces
  | cons p ps =>
    cases p with
    | text s =>
      rw [Expression.pieces] at hread
      obtain ⟨es, hes, hread⟩ := Option.bind_eq_some_iff.1 hread
      cases hread
      exact .text (h.pieces hes)
    | formatEnd =>
      rw [Expression.pieces] at hread
      exact .formatEnd (h.pieces hread)
    | expression cs =>
      rw [Expression.pieces] at hread
      obtain ⟨ts, hts, hread⟩ := Option.bind_eq_some_iff.1 hread
      obtain ⟨e, us, he, hread⟩ := exists_of_bind hread
      dsimp only at hread
      split at hread
      · next hus =>
        obtain ⟨es, hes, hread⟩ := Option.bind_eq_some_iff.1 hread
        cases hread
        obtain rfl := List.isEmpty_iff.1 hus
        have hinner := (h.atom he (.lineEnds rfl)).said
        rw [List.append_nil] at hinner
        exact .expression hts hinner (h.pieces hes)
      · cases hread

/-! ### Collections -/

/-- A value with a name is read as an expression behind its name. -/
theorem named_succ (h : Sums fuel) : Adds Expr.texts (Expression.named (fuel + 1)) := by
  intro ts e rest ss hread hrest
  unfold Expression.named at hread
  split at hread
  · cases ‹fuel + 1 = 0›
  · cases ‹fuel + 1 = _ + 1›
    obtain ⟨e, us, he, hread⟩ := exists_of_bind hread
    cases hread
    simpa using ((h.expression he hrest).mark .colonEq).name _
  · cases ‹fuel + 1 = _ + 1›
    exact h.expression hread hrest

/-- An item is a value, perhaps behind a star. -/
theorem item_succ (h : Sums fuel) : Adds Expr.texts (Expression.item (fuel + 1)) := by
  intro ts e rest ss hread hrest
  unfold Expression.item at hread
  split at hread
  · cases ‹fuel + 1 = 0›
  · cases ‹fuel + 1 = _ + 1›
    obtain ⟨e, us, he, hread⟩ := exists_of_bind hread
    cases hread
    simpa using (h.binary _ he hrest).mark .star
  · cases ‹fuel + 1 = _ + 1›
    exact h.named hread hrest

/-- Items between brackets are read up to the mark that closes these. -/
theorem items_succ (h : Sums fuel) (close : Mark) :
    Adds textsOf (Expression.items (fuel + 1) close) := by
  intro ts es rest ss hread hrest
  rw [Expression.items] at hread
  split at hread
  · next us hus =>
    cases hread
    exact .behind hus hrest
  · obtain ⟨e, us, he, hread⟩ := exists_of_bind hread
    obtain ⟨es, vs, hes, hread⟩ := exists_of_bind hread
    cases hread
    simpa using h.item he (h.moreItems close hes hrest)

/-- The items behind the first one follow commas, the last of which may stand alone. -/
theorem moreItems_succ (h : Sums fuel) (close : Mark) :
    Adds textsOf (Expression.moreItems (fuel + 1) close) := by
  intro ts es rest ss hread hrest
  rw [Expression.moreItems] at hread
  split at hread
  · next us hus => exact .behind hus (h.items close hread hrest)
  · obtain ⟨us, hus, hread⟩ := Option.map_eq_some_iff.1 hread
    cases hread
    exact .behind hus hrest

/-- Parentheses hold a value, a tuple, a generator or nothing. -/
theorem parenthesized_succ (h : Sums fuel) :
    Adds Expr.texts (Expression.parenthesized (fuel + 1)) := by
  intro ts e rest ss hread hrest
  unfold Expression.parenthesized at hread
  split at hread
  · cases ‹fuel + 1 = 0›
  · cases hread
    exact hrest.mark _
  · cases ‹fuel + 1 = _ + 1›
    obtain ⟨e, us, he, hread⟩ := exists_of_bind hread
    obtain ⟨vs, hvs, hread⟩ := Option.bind_eq_some_iff.1 hread
    cases hread
    exact (h.yielded he (.behind hvs hrest)).word _
  · cases ‹fuel + 1 = _ + 1›
    obtain ⟨e, us, he, hread⟩ := exists_of_bind hread
    dsimp only at hread
    split at hread
    · obtain ⟨es, vs, hes, hread⟩ := exists_of_bind hread
      cases hread
      simpa using h.item he ((h.items _ hes hrest).mark .comma)
    · split at hread
      · cases hread
      · cases hread
        exact h.item he (hrest.mark _)
    · obtain ⟨ws, hws, heq⟩ := h.computed _ _ _ hread hrest
      exact heq ▸ h.item he hws

/-- Brackets hold a list or a comprehension. -/
theorem bracketed_succ (h : Sums fuel) : Adds Expr.texts (Expression.bracketed (fuel + 1)) := by
  intro ts e rest ss hread hrest
  unfold Expression.bracketed at hread
  split at hread
  · cases ‹fuel + 1 = 0›
  · cases hread
    exact hrest.mark _
  · cases ‹fuel + 1 = _ + 1›
    obtain ⟨e, us, he, hread⟩ := exists_of_bind hread
    dsimp only at hread
    split at hread
    · obtain ⟨ws, hws, heq⟩ := h.computed _ _ _ hread hrest
      exact heq ▸ h.item he hws
    · obtain ⟨ws, hws, heq⟩ := h.computed _ _ _ hread hrest
      exact heq ▸ h.item he hws
    · obtain ⟨es, vs, hes, hread⟩ := exists_of_bind hread
      cases hread
      simpa using h.item he (h.moreItems _ hes hrest)

/-- Braces hold a set, a mapping or a comprehension. -/
theorem braced_succ (h : Sums fuel) : Adds Expr.texts (Expression.braced (fuel + 1)) := by
  intro ts e rest ss hread hrest
  unfold Expression.braced at hread
  split at hread
  · obtain ⟨es, us, hes, hread⟩ := exists_of_bind hread
    cases hread
    exact h.entries hes hrest
  · obtain ⟨es, us, hes, hread⟩ := exists_of_bind hread
    cases hread
    exact h.entries hes hrest
  · obtain ⟨f, us, hf, hread⟩ := exists_of_bind hread
    obtain ⟨ws, hws, heq⟩ := h.setFrom _ hread hrest
    exact heq ▸ h.item hf hws
  · obtain ⟨f, us, hf, hread⟩ := exists_of_bind hread
    obtain ⟨ws, hws, heq⟩ := h.setFrom _ hread hrest
    exact heq ▸ h.item hf hws
  · obtain ⟨k, us, hk, hread⟩ := exists_of_bind hread
    dsimp only at hread
    split at hread
    · obtain ⟨ws, hws, heq⟩ := h.setFrom _ hread hrest
      exact heq ▸ h.expression hk hws
    · next vs hvs =>
      obtain ⟨v, us, hv, hread⟩ := exists_of_bind hread
      dsimp only at hread
      split at hread
      · obtain ⟨es, us, hes, hread⟩ := exists_of_bind hread
        obtain ⟨ws, hws, hread⟩ := Option.bind_eq_some_iff.1 hread
        cases hread
        simpa using h.expression hk
          (.behind hvs (h.expression hv (h.clauses hes (.behind hws hrest))))
      · obtain ⟨es, us, hes, hread⟩ := exists_of_bind hread
        obtain ⟨ws, hws, hread⟩ := Option.bind_eq_some_iff.1 hread
        cases hread
        simpa using h.expression hk
          (.behind hvs (h.expression hv (h.clauses hes (.behind hws hrest))))
      · obtain ⟨es, us, hes, hread⟩ := exists_of_bind hread
        cases hread
        simpa using h.expression hk (.behind hvs (h.expression hv (h.moreEntries hes hrest)))

/-- What stands behind the first item between braces is added to it. -/
theorem setFrom_succ (h : Sums fuel) (e : Expr) :
    AddsTo e (Expression.setFrom (fuel + 1) e) := by
  intro ts f rest ss hread hrest
  unfold Expression.setFrom at hread
  split at hread
  · exact h.computed _ _ _ hread hrest
  · exact h.computed _ _ _ hread hrest
  · obtain ⟨es, us, hes, hread⟩ := exists_of_bind hread
    cases hread
    exact ⟨_, h.moreItems _ hes hrest, by simp⟩

/-- The entries of a mapping have the text constants of key and value in turn. -/
theorem entries_succ (h : Sums fuel) : Adds textsOf (Expression.entries (fuel + 1)) := by
  intro ts es rest ss hread hrest
  unfold Expression.entries at hread
  split at hread
  · cases ‹fuel + 1 = 0›
  · cases hread
    exact hrest.mark _
  · cases ‹fuel + 1 = _ + 1›
    obtain ⟨e, us, he, hread⟩ := exists_of_bind hread
    obtain ⟨es, vs, hes, hread⟩ := exists_of_bind hread
    cases hread
    simpa using (h.binary _ he (h.moreEntries hes hrest)).mark .power
  · cases ‹fuel + 1 = _ + 1›
    obtain ⟨k, us, hk, hread⟩ := exists_of_bind hread
    obtain ⟨ws, hws, hread⟩ := Option.bind_eq_some_iff.1 hread
    obtain ⟨v, us, hv, hread⟩ := exists_of_bind hread
    obtain ⟨es, us, hes, hread⟩ := exists_of_bind hread
    cases hread
    simpa using h.expression hk (.behind hws (h.expression hv (h.moreEntries hes hrest)))

/-- The entries behind the first one follow commas. -/
theorem moreEntries_succ (h : Sums fuel) : Adds textsOf (Expression.moreEntries (fuel + 1)) := by
  intro ts es rest ss hread hrest
  rw [Expression.moreEntries] at hread
  split at hread
  · next us hus => exact .behind hus (h.entries hread hrest)
  · obtain ⟨us, hus, hread⟩ := Option.map_eq_some_iff.1 hread
    cases hread
    exact .behind hus hrest

/-! ### Computed collections -/

/-- The clauses of a comprehension are added to what it computes. -/
theorem computed_succ (h : Sums fuel) (form : Form) (close : Mark) (e : Expr) :
    AddsTo e (Expression.computed (fuel + 1) form close e) := by
  intro ts f rest ss hread hrest
  rw [Expression.computed] at hread
  split at hread
  · cases hread
  · obtain ⟨es, us, hes, hread⟩ := exists_of_bind hread
    obtain ⟨vs, hvs, hread⟩ := Option.bind_eq_some_iff.1 hread
    cases hread
    exact ⟨_, h.clauses hes (.behind hvs hrest), by simp⟩

/-- Clauses of a comprehension are read one after the other. -/
theorem clauses_succ (h : Sums fuel) : Adds textsOf (Expression.clauses (fuel + 1)) := by
  intro ts es rest ss hread hrest
  unfold Expression.clauses at hread
  split at hread
  · cases ‹fuel + 1 = 0›
  · cases ‹fuel + 1 = _ + 1›
    exact ((h.clause hread hrest).word _).word _
  · cases ‹fuel + 1 = _ + 1›
    exact (h.clause hread hrest).word _
  · cases hread

/-- A clause has the text constants of its targets, of what they run through and of its conditions.
-/
theorem clause_succ (h : Sums fuel) : Adds textsOf (Expression.clause (fuel + 1)) := by
  intro ts es rest ss hread hrest
  rw [Expression.clause] at hread
  obtain ⟨xs, us, hxs, hread⟩ := exists_of_bind hread
  dsimp only at hread
  split at hread
  · obtain ⟨e, vs, he, hread⟩ := exists_of_bind hread
    obtain ⟨cs, ws, hcs, hread⟩ := exists_of_bind hread
    dsimp only at hread
    split at hread
    · obtain ⟨es, vs, hes, hread⟩ := exists_of_bind hread
      cases hread
      have hclauses := h.conditions hcs (h.clauses hes hrest)
      simpa using h.targets hxs ((h.disjunction he hclauses).word .inWord)
    · obtain ⟨es, vs, hes, hread⟩ := exists_of_bind hread
      cases hread
      have hclauses := h.conditions hcs (h.clauses hes hrest)
      simpa using h.targets hxs ((h.disjunction he hclauses).word .inWord)
    · cases hread
      simpa using h.targets hxs ((h.disjunction he (h.conditions hcs hrest)).word .inWord)
  · cases hread

/-- The conditions of a clause are read one after the other. -/
theorem conditions_succ (h : Sums fuel) : Adds textsOf (Expression.conditions (fuel + 1)) := by
  intro ts es rest ss hread hrest
  unfold Expression.conditions at hread
  split at hread
  · cases ‹fuel + 1 = 0›
  · cases ‹fuel + 1 = _ + 1›
    obtain ⟨e, us, he, hread⟩ := exists_of_bind hread
    obtain ⟨es, vs, hes, hread⟩ := exists_of_bind hread
    cases hread
    simpa using (h.disjunction he (h.conditions hes hrest)).word .ifWord
  · cases hread
    exact hrest

/-- The targets of a clause are read as far as their commas go. -/
theorem targets_succ (h : Sums fuel) : Adds textsOf (Expression.targets (fuel + 1)) := by
  intro ts es rest ss hread hrest
  rw [Expression.targets] at hread
  obtain ⟨e, us, he, hread⟩ := exists_of_bind hread
  dsimp only at hread
  split at hread
  · cases hread
    simpa using h.target he (hrest.mark .comma)
  · obtain ⟨es, vs, hes, hread⟩ := exists_of_bind hread
    cases hread
    simpa using h.target he ((h.targets hes hrest).mark .comma)
  · cases hread
    simpa using h.target he hrest

/-- A target is what may be assigned to, perhaps behind a star. -/
theorem target_succ (h : Sums fuel) : Adds Expr.texts (Expression.target (fuel + 1)) := by
  intro ts e rest ss hread hrest
  unfold Expression.target at hread
  split at hread
  · cases ‹fuel + 1 = 0›
  · cases ‹fuel + 1 = _ + 1›
    obtain ⟨e, us, he, hread⟩ := exists_of_bind hread
    dsimp only at hread
    split at hread
    · cases hread
      simpa using (h.primary he hrest).mark .star
    · cases hread
  · cases ‹fuel + 1 = _ + 1›
    obtain ⟨e, us, he, hread⟩ := exists_of_bind hread
    dsimp only at hread
    split at hread
    · cases hread
      exact h.primary he hrest
    · cases hread

/-- What a generator yields is some values, those of another generator, or nothing. -/
theorem yielded_succ (h : Sums fuel) : Adds Expr.texts (Expression.yielded (fuel + 1)) := by
  intro ts e rest ss hread hrest
  unfold Expression.yielded at hread
  split at hread
  · cases ‹fuel + 1 = 0›
  · cases ‹fuel + 1 = _ + 1›
    obtain ⟨e, us, he, hread⟩ := exists_of_bind hread
    cases hread
    simpa using (h.expression he hrest).word .fromWord
  · cases hread
    exact hrest
  · cases ‹fuel + 1 = _ + 1›
    obtain ⟨es, us, hes, hread⟩ := exists_of_bind hread
    cases hread
    exact h.yieldedItems hes hrest

/-- An item of what is yielded is a value, perhaps behind a star. -/
theorem yieldedItem_succ (h : Sums fuel) :
    Adds Expr.texts (Expression.yieldedItem (fuel + 1)) := by
  intro ts e rest ss hread hrest
  unfold Expression.yieldedItem at hread
  split at hread
  · cases ‹fuel + 1 = 0›
  · cases ‹fuel + 1 = _ + 1›
    obtain ⟨e, us, he, hread⟩ := exists_of_bind hread
    cases hread
    simpa using (h.binary _ he hrest).mark .star
  · cases ‹fuel + 1 = _ + 1›
    exact h.expression hread hrest

/-- The items of what is yielded follow commas. -/
theorem yieldedItems_succ (h : Sums fuel) :
    Adds textsOf (Expression.yieldedItems (fuel + 1)) := by
  intro ts es rest ss hread hrest
  rw [Expression.yieldedItems] at hread
  obtain ⟨e, us, he, hread⟩ := exists_of_bind hread
  dsimp only at hread
  split at hread
  · cases hread
    simpa using h.yieldedItem he (hrest.mark .comma)
  · obtain ⟨es, vs, hes, hread⟩ := exists_of_bind hread
    cases hread
    simpa using h.yieldedItem he ((h.yieldedItems hes hrest).mark .comma)
  · cases hread
    simpa using h.yieldedItem he hrest

/-! ### Subscripts, calls and parameters -/

/-- A subscript has the text constants of its slices. -/
theorem slices_succ (h : Sums fuel) : Adds textsOf (Expression.slices (fuel + 1)) := by
  intro ts es rest ss hread hrest
  rw [Expression.slices] at hread
  obtain ⟨es, us, hes, hread⟩ := exists_of_bind hread
  dsimp only at hread
  split at hread
  · cases hread
    exact h.slice hes (hrest.mark _)
  · cases hread
    exact h.slice hes ((hrest.mark _).mark _)
  · obtain ⟨fs, vs, hfs, hread⟩ := exists_of_bind hread
    cases hread
    simpa using h.slice hes ((h.slices hfs hrest).mark .comma)
  · cases hread

/-- A slice has the text constants of its bounds, or of its one value. -/
theorem slice_succ (h : Sums fuel) : Adds textsOf (Expression.slice (fuel + 1)) := by
  intro ts es rest ss hread hrest
  unfold Expression.slice at hread
  split at hread
  · obtain ⟨e, us, he, hread⟩ := exists_of_bind hread
    cases hread
    simpa using (h.expression he hrest).mark .star
  · obtain ⟨e, us, he, hread⟩ := exists_of_bind hread
    cases hread
    simpa using h.named he hrest
  · exact (h.bounds hread hrest).mark _
  · obtain ⟨e, us, he, hread⟩ := exists_of_bind hread
    dsimp only at hread
    split at hread
    · obtain ⟨es, vs, hes, hread⟩ := exists_of_bind hread
      cases hread
      simpa using h.expression he ((h.bounds hes hrest).mark .colon)
    · cases hread
      simpa using h.expression he hrest

/-- The bounds of a slice follow colons. -/
theorem bounds_succ (h : Sums fuel) : Adds textsOf (Expression.bounds (fuel + 1)) := by
  intro ts es rest ss hread hrest
  rw [Expression.bounds] at hread
  obtain ⟨es, us, hes, hread⟩ := exists_of_bind hread
  dsimp only at hread
  split at hread
  · obtain ⟨fs, vs, hfs, hread⟩ := exists_of_bind hread
    cases hread
    simpa using h.bound hes ((h.bound hfs hrest).mark .colon)
  · cases hread
    exact h.bound hes hrest

/-- A bound may be left out, and then has no text constants. -/
theorem bound_succ (h : Sums fuel) : Adds textsOf (Expression.bound (fuel + 1)) := by
  intro ts es rest ss hread hrest
  unfold Expression.bound at hread
  split at hread
  · cases hread
    exact hrest
  · cases hread
    exact hrest
  · cases hread
    exact hrest
  · obtain ⟨e, us, he, hread⟩ := exists_of_bind hread
    cases hread
    simpa using h.expression he hrest

/-- The arguments of a call are read up to the closing parenthesis; those with a name are kept
apart, but have their text constants in order. -/
theorem arguments_succ (h : Sums fuel) (which : Arguments) :
    Adds argumentTexts (Expression.arguments (fuel + 1) which) := by
  intro ts es rest ss hread hrest
  unfold Expression.arguments at hread
  split at hread
  · cases hread
    exact hrest.mark _
  · split at hread
    · cases hread
    · obtain ⟨e, us, he, hread⟩ := exists_of_bind hread
      obtain ⟨es, vs, hes, hread⟩ := exists_of_bind hread
      cases hread
      simpa [argumentTexts] using (h.expression he (h.moreArguments _ hes hrest)).mark .star
  · obtain ⟨e, us, he, hread⟩ := exists_of_bind hread
    obtain ⟨es, vs, hes, hread⟩ := exists_of_bind hread
    cases hread
    simpa [argumentTexts] using (h.expression he (h.moreArguments _ hes hrest)).mark .power
  · obtain ⟨e, us, he, hread⟩ := exists_of_bind hread
    obtain ⟨es, vs, hes, hread⟩ := exists_of_bind hread
    cases hread
    have hvalue := (h.expression he (h.moreArguments _ hes hrest)).mark .assign
    simpa [argumentTexts] using hvalue.name _
  · split at hread
    · cases hread
    · obtain ⟨e, us, he, hread⟩ := exists_of_bind hread
      have hcomputed : ∀ {g vs}, Expression.computed fuel .generator .rightParen e us =
          some (g, vs) → Writes vs ss → Writes ts (argumentTexts [(false, g)] ++ ss) := by
        intro g vs hg hvs
        obtain ⟨ws, hws, heq⟩ := h.computed _ _ _ hg hvs
        simpa [argumentTexts, ← heq] using h.named he hws
      dsimp only at hread
      split at hread
      · split at hread
        · obtain ⟨g, vs, hg, hread⟩ := exists_of_bind hread
          cases hread
          exact hcomputed hg hrest
        · cases hread
      · split at hread
        · obtain ⟨g, vs, hg, hread⟩ := exists_of_bind hread
          cases hread
          exact hcomputed hg hrest
        · cases hread
      · obtain ⟨es, vs, hes, hread⟩ := exists_of_bind hread
        cases hread
        simpa [argumentTexts] using h.named he (h.moreArguments _ hes hrest)

/-- The arguments behind the first one follow commas. -/
theorem moreArguments_succ (h : Sums fuel) (which : Arguments) :
    Adds argumentTexts (Expression.moreArguments (fuel + 1) which) := by
  intro ts es rest ss hread hrest
  rw [Expression.moreArguments] at hread
  split at hread
  · next us hus => exact .behind hus (h.arguments which hread hrest)
  · obtain ⟨us, hus, hread⟩ := Option.map_eq_some_iff.1 hread
    cases hread
    exact .behind hus hrest

/-- The parameters of a lambda have the text constants of their defaults. -/
theorem parameters_succ (h : Sums fuel) (p : Parameters) :
    Adds textsOf (Expression.parameters (fuel + 1) p) := by
  intro ts es rest ss hread hrest
  unfold Expression.parameters at hread
  split at hread
  · cases hread
    exact hrest
  · obtain ⟨e, us, he, hread⟩ := exists_of_bind hread
    obtain ⟨es, vs, hes, hread⟩ := exists_of_bind hread
    cases hread
    have hvalue := (h.expression he (h.moreParameters _ hes hrest)).mark .assign
    simpa using hvalue.name _
  · split at hread
    · cases hread
    · exact (h.moreParameters _ hread hrest).name _
  · split at hread
    · exact (h.moreParameters _ hread hrest).mark _
    · cases hread
  · split at hread
    · cases hread
    · exact ((h.moreParameters _ hread hrest).name _).mark _
  · split at hread
    · cases hread
    · exact ((h.parameters _ hread hrest).mark _).mark _
  · cases hread
    exact ((hrest.mark _).name _).mark _
  · cases hread
    exact (hrest.name _).mark _
  · cases hread

/-- The parameters behind the first one follow commas. -/
theorem moreParameters_succ (h : Sums fuel) (p : Parameters) :
    Adds textsOf (Expression.moreParameters (fuel + 1) p) := by
  intro ts es rest ss hread hrest
  unfold Expression.moreParameters at hread
  split at hread
  · exact (h.parameters _ hread hrest).mark _
  · cases hread
    exact hrest
  · cases hread

/-- Whatever the bound, the readers add texts to texts. -/
theorem all (fuel : Nat) : Sums fuel := by
  induction fuel with
  | zero =>
    constructor <;> intros
    case quoted hread _ => cases hread
    case pieces hread => cases hread
    all_goals exact .of_none fun _ => rfl
  | succ fuel h =>
    exact {
      expression := h.expression_succ
      disjunction := h.disjunction_succ
      moreConjunctions := h.moreConjunctions_succ
      conjunction := h.conjunction_succ
      moreInversions := h.moreInversions_succ
      inversion := h.inversion_succ
      comparisons := h.comparisons_succ
      binary := h.binary_succ
      moreOperands := h.moreOperands_succ
      factor := h.factor_succ
      awaited := h.awaited_succ
      primary := h.primary_succ
      trailers := h.trailers_succ
      atom := h.atom_succ
      quoted := h.quoted_succ
      pieces := h.pieces_succ
      named := h.named_succ
      item := h.item_succ
      items := h.items_succ
      moreItems := h.moreItems_succ
      parenthesized := h.parenthesized_succ
      bracketed := h.bracketed_succ
      braced := h.braced_succ
      setFrom := h.setFrom_succ
      entries := h.entries_succ
      moreEntries := h.moreEntries_succ
      computed := h.computed_succ
      clauses := h.clauses_succ
      clause := h.clause_succ
      conditions := h.conditions_succ
      targets := h.targets_succ
      target := h.target_succ
      yielded := h.yielded_succ
      yieldedItem := h.yieldedItem_succ
      yieldedItems := h.yieldedItems_succ
      slices := h.slices_succ
      slice := h.slice_succ
      bounds := h.bounds_succ
      bound := h.bound_succ
      arguments := h.arguments_succ
      moreArguments := h.moreArguments_succ
      parameters := h.parameters_succ
      moreParameters := h.moreParameters_succ }

end Sums

/-! ### Lines -/

/-- Expressions that follow commas on a line add their text constants one after the other, whatever
the bound on the calls is. -/
theorem moreExpressions_adds (fuel : Nat) : Adds textsOf (moreExpressions fuel) := by
  induction fuel with
  | zero => exact .of_none fun _ => rfl
  | succ fuel ih =>
    intro ts es rest ss hread hrest
    unfold moreExpressions at hread
    split at hread
    · cases hread
    · cases hread
      exact hrest
    · cases hread
      exact hrest
    · cases ‹fuel + 1 = _›
      obtain ⟨e, us, he, hread⟩ := exists_of_bind hread
      dsimp only at hread
      split at hread
      · obtain ⟨es, vs, hes, hread⟩ := exists_of_bind hread
        cases hread
        simpa using (Sums.all fuel).expression he ((ih hes hrest).mark .comma)
      · cases hread
        simpa using (Sums.all fuel).expression he hrest

/-- A line holds one expression, or several as a tuple. -/
theorem line?_adds (fuel : Nat) : Adds Expr.texts (line? fuel) := by
  intro ts e rest ss hread hrest
  obtain ⟨e, us, he, hread⟩ := exists_of_bind hread
  dsimp only at hread
  split at hread
  · obtain ⟨es, vs, hes, hread⟩ := exists_of_bind hread
    cases hread
    have hmore := moreExpressions_adds fuel hes hrest
    simpa using (Sums.all fuel).expression he (hmore.mark .comma)
  · cases hread
    exact (Sums.all fuel).expression he hrest

/-- **The text constants of a tree are the texts that its tokens write.** -/
theorem exists_writes {cs : List Char} {e : Expr} (h : tree? cs = some e) :
    ∃ ts, tokens? (Text.universalNewlines cs) = some ts ∧ Writes ts e.texts := by
  obtain ⟨ts, hts, h⟩ := Option.bind_eq_some_iff.1 h
  obtain ⟨e, us, he, h⟩ := exists_of_bind h
  dsimp only at h
  split at h
  · next hend =>
    cases h
    have hwrites := line?_adds _ he (.lineEnds hend)
    rw [List.append_nil] at hwrites
    exact ⟨ts, hts, hwrites⟩
  · cases h

end Expression
end WorkflowKit
