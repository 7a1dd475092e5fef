/-
# How conditions are read

The normal form of a condition is cut into its tokens (`Condition.lexes`), and these are read as its
tree (`Condition.tree?_normalChars`), where `not` is around a check, `and` around the checks of a
clause, and `or` around the clauses.
-/

import WorkflowKit.Proofs.Expression.Grammar
import WorkflowKit.Proofs.Expression.Respelling

namespace WorkflowKit
namespace Expression

variable {depth : Nat} {cs : List Char} {ts rest : List Token}

/-! ### Tokens -/

/-- The name of an attribute. -/
def Attribute.id (a : Attribute) : String := String.ofList a.chars

/-- The name of an attribute is one token in front of a blank. -/
theorem Attribute.lexes (a : Attribute) (h : Lexes depth (' ' :: cs) ts) :
    Lexes depth (a.chars ++ ' ' :: cs) (.name a.id :: ts) := by
  cases a <;> exact h.token rfl rfl rfl (by simp)

namespace Subject

/-- The tokens of a subject. -/
def tokens (s : Subject) : List Token :=
  (if s.qualified then [.name "trigger", .mark .dot] else []) ++ [.name s.attr.id]

/-- A subject is its name, or the names `trigger` and its own with a point between them. -/
theorem lexes (s : Subject) (h : Lexes depth (' ' :: cs) ts) :
    Lexes depth (s.chars ++ ' ' :: cs) (s.tokens ++ ts) := by
  obtain ⟨a, qualified⟩ := s
  have hname := a.lexes h
  cases qualified with
  | false => exact hname
  | true =>
    have hdot : Lexes depth ('.' :: (a.chars ++ ' ' :: cs)) (.mark .dot :: .name a.id :: ts) := by
      cases a <;> exact hname.token rfl rfl rfl (by simp)
    exact hdot.token rfl rfl rfl (by simp)

end Subject

/-- A keyword is a token in front of a blank. -/
theorem Lexes.word {w : List Char} {word : Word} (h : Lexes depth cs ts)
    (hw : beginsToken (w.headD ' ') = true)
    (ht : ∀ cs, token? (w ++ ' ' :: cs) = some (.word word, ' ' :: cs)) :
    Lexes depth (w ++ ' ' :: cs) (.word word :: ts) := by
  cases w with
  | nil => cases hw
  | cons c w => exact h.blank.token hw (ht cs) rfl (by simp)

/-- The literals behind the first of a list are cut at their commas.  They do not begin with a
quote, so the literal before them ends where it was written to end. -/
theorem Lexes.moreListed {t : Token} (ss : List Text) (h : Lexes depth (']' :: cs) (t :: ts)) :
    Lexes depth (moreListedChars ss ++ ']' :: cs)
      (moreLiteralTokens (ss.map Text.chars) ++ t :: ts) ∧
    (moreListedChars ss ++ ']' :: cs).head? ≠ some '\x27' := by
  induction ss with
  | nil => exact ⟨h, by simp [moreListedChars]⟩
  | cons s ss ih =>
    obtain ⟨hmore, hhead⟩ := ih
    have hcomma :=
      (hmore.quoted hhead s.chars).blank.token (c := ',') (t := .mark .comma) rfl rfl rfl
      (by simp)
    refine ⟨?_, by simp [moreListedChars]⟩
    simpa [moreListedChars, moreLiteralTokens, literalToken] using hcomma

/-- The literals of a list are cut up to the bracket behind them. -/
theorem Lexes.listed {t : Token} (ss : List Text) (h : Lexes depth (']' :: cs) (t :: ts)) :
    Lexes depth (listedChars ss ++ ']' :: cs)
      (literalTokens (ss.map Text.chars) ++ t :: ts) := by
  cases ss with
  | nil => exact h
  | cons s ss =>
    obtain ⟨hmore, hhead⟩ := h.moreListed ss
    simpa [listedChars, literalTokens, literalToken] using hmore.quoted hhead s.chars

namespace Test

/-- The tokens of a test. -/
def tokens : Test → List Token
  | equals negated _ s => [.mark (if negated then .ne else .eq), literalToken s.chars]
  | isIn negated ss =>
    (if negated then [.word .notWord, .word .inWord] else [.word .inWord]) ++
      .mark .leftBracket :: (literalTokens (ss.map Text.chars) ++ [.mark .rightBracket])

/-- A test in normal form is cut into its operator and its literals. -/
theorem lexes (t : Test) (hcs : EndsWord cs) (h : Lexes 0 cs ts) :
    Lexes 0 (t.normal.chars ++ cs) (t.tokens ++ ts) := by
  cases t with
  | equals negated sign s =>
    have hhead : cs.head? ≠ some '\x27' := by
      obtain rfl | ⟨more, rfl⟩ := hcs <;> simp
    have hliteral := (h.quoted hhead s.chars).blank
    rw [normal, chars_equals, List.cons_append, List.append_assoc]
    cases negated <;> exact (hliteral.token rfl rfl rfl (by simp)).blank
  | isIn negated ss =>
    have hclose : Lexes 1 (']' :: cs) (.mark .rightBracket :: ts) := h.token rfl rfl rfl (by simp)
    have hopen : Lexes 0 ('[' :: (listedChars ss ++ ']' :: cs)) (.mark .leftBracket ::
        (literalTokens (ss.map Text.chars) ++ .mark .rightBracket :: ts)) :=
      (hclose.listed ss).token rfl rfl rfl (Nat.le_refl _)
    have hin := hopen.word (w := ['i', 'n']) rfl fun _ => rfl
    rw [normal, chars_isIn]
    cases negated with
    | false => simpa [membership, tokens] using hin.blank
    | true =>
      have hnot := hin.word (w := ['n', 'o', 't']) rfl fun _ => rfl
      simpa [membership, tokens] using hnot.blank

/-- A test begins with a blank, so the subject before it ends there. -/
theorem exists_chars (t : Test) : ∃ cs, t.chars = ' ' :: cs := by
  cases t with
  | equals negated sign s => exact ⟨_, chars_equals negated sign s⟩
  | isIn negated ss => exact ⟨_, chars_isIn negated ss⟩

end Test

namespace Check

/-- The tokens of a check. -/
def tokens (c : Check) : List Token :=
  (if c.negated then [.word .notWord] else []) ++ (c.subject.tokens ++ c.test.tokens)

/-- A check in normal form is cut into `not`, where it is negated, its subject and its test. -/
theorem lexes (c : Check) (hcs : EndsWord cs) (h : Lexes 0 cs ts) :
    Lexes 0 (c.lead ++ c.normalChars ++ cs) (c.tokens ++ ts) := by
  obtain ⟨negated, subject, test⟩ := c
  have htest := test.lexes hcs h
  obtain ⟨more, hmore⟩ := test.normal.exists_chars
  rw [hmore] at htest
  have hsubject := subject.lexes htest
  cases negated with
  | false => simpa [lead, normalChars, tokens, hmore] using hsubject
  | true =>
    have hnot := (hsubject.word (w := ['n', 'o', 't']) rfl fun _ => rfl).blank
    simpa [lead, normalChars, tokens, hmore] using hnot

end Check

/-! ### Tokens of conditions -/

/-- Texts behind a keyword each are cut one after the other. -/
theorem Lexes.behindEach {α : Type} {w : List Char} {word : Word} {chars : α → List Char}
    {tokens : α → List Token} (hw : beginsToken (w.headD ' ') = true)
    (ht : ∀ cs, token? (w ++ ' ' :: cs) = some (.word word, ' ' :: cs))
    (hchars : ∀ a cs ts, EndsWord cs → Lexes 0 cs ts → Lexes 0 (chars a ++ cs) (tokens a ++ ts))
    (as : List α) (hcs : EndsWord cs) (h : Lexes 0 cs ts) :
    Lexes 0 (behindEach (' ' :: (w ++ [' '])) chars as ++ cs)
      (as.flatMap (fun a => .word word :: tokens a) ++ ts) := by
  induction as with
  | nil => exact h
  | cons a as ih =>
    have hends := endsWord_behindEach (' ' :: (w ++ [' '])) chars as hcs
    have hword := (hchars a _ _ hends ih).blank.word hw ht
    simpa [Expression.behindEach] using hword.blank.blank

namespace Clause

/-- The tokens of a clause. -/
def tokens (k : Clause) : List Token :=
  k.first.tokens ++ k.rest.flatMap fun c => .word .andWord :: c.tokens

/-- A clause in normal form is cut into its checks, with the word `and` between them. -/
theorem lexes (k : Clause) (hcs : EndsWord cs) (h : Lexes 0 cs ts) :
    Lexes 0 (k.first.lead ++ k.normalChars ++ cs) (k.tokens ++ ts) := by
  have hrest := Lexes.behindEach (w := ['a', 'n', 'd']) rfl (fun _ => rfl)
    (fun c _ _ => Check.lexes c) k.rest hcs h
  have hfirst := k.first.lexes (endsWord_behindEach _ _ k.rest hcs) hrest
  simpa [normalChars, tokens] using hfirst

end Clause

namespace Condition

/-- The tokens of a condition. -/
def tokens (c : Condition) : List Token :=
  c.first.tokens ++ c.rest.flatMap fun k => .word .orWord :: k.tokens

/-- A condition in normal form is cut into its clauses, with the word `or` between them. -/
theorem lexes (c : Condition) : Lexes 0 (c.first.first.lead ++ c.normalChars) c.tokens := by
  have hends : EndsWord [] := .inl rfl
  have hrest := Lexes.behindEach (w := ['o', 'r']) rfl (fun _ => rfl)
    (fun k _ _ => Clause.lexes k) c.rest hends .nil
  have hfirst := c.first.lexes (endsWord_behindEach _ _ c.rest hends) hrest
  simpa [normalChars, tokens] using hfirst

end Condition

/-! ### Trees -/

namespace Subject

/-- The tree of a subject. -/
def tree (s : Subject) : Expr :=
  if s.qualified then .member (.name "trigger") s.attr.id else .name s.attr.id

/-- A subject begins an operand. -/
theorem begins (s : Subject) (rest : List Token) : BeginsOperand (s.tokens ++ rest) := by
  obtain ⟨a, qualified⟩ := s
  cases qualified <;> exact .name _ _

/-- A subject is read as an operand: a name, or an attribute of a name. -/
theorem reads (s : Subject) (hrest : EndsOperand rest) :
    Reads (fun fuel => binary fuel binaryLevels) 14 (s.tokens ++ rest) s.tree rest := by
  have hprimary : Reads primary 4 (s.tokens ++ rest) s.tree rest := by
    obtain ⟨a, qualified⟩ := s
    intro fuel hfuel
    obtain ⟨n, rfl⟩ := Nat.exists_eq_add_of_le' hfuel
    cases qualified with
    | false => exact hrest.trailers_eq (n + 2) (.name a.id)
    | true => exact hrest.trailers_eq (n + 1) (.member (.name "trigger") a.id)
  exact (hprimary.binary (s.begins rest) hrest).mono (by decide)

end Subject

namespace Test

/-- The tree of a test of an operand. -/
def tree (e : Expr) : Test → Expr
  | equals negated _ s => .compare e [(if negated then .ne else .eq, literal s.chars)]
  | isIn negated ss =>
    .compare e [(if negated then .notIn else .isIn, .list ((ss.map Text.chars).map literal))]

/-- The tokens of a list of literals outnumber the literals, so that they are enough fuel. -/
theorem length_literalTokens (ss : List (List Char)) :
    2 * ss.length ≤ (literalTokens ss).length + 1 := by
  cases ss with
  | nil => decide
  | cons s ss =>
    have hmore : (moreLiteralTokens ss).length = 2 * ss.length := by
      simp [moreLiteralTokens, List.map_const', Nat.mul_comm]
    rw [literalTokens, List.length_cons, List.length_cons, hmore]
    omega

/-- A test is read as a comparison of its subject with a literal or with a list. -/
theorem reads (s : Subject) (t : Test) (hrest : EndsComparison rest) :
    Reads inversion (t.tokens.length + 40) (s.tokens ++ (t.tokens ++ rest)) (t.tree s.tree)
      rest := by
  cases t with
  | equals negated sign text =>
    have hliteral := Reads.binary_literal text.chars (.comparison hrest)
    have hcompare {mid : List Token} {c : Comparison} (hmid : EndsOperand mid)
        (hc : comparison? mid = some (c, literalToken text.chars :: rest)) :=
      (((s.reads hmid).mono (by decide)).inversion_comparison (s.begins mid) hc hliteral hrest).mono
        (l := 42) (by decide)
    cases negated with
    | false => exact hcompare (.eq _) rfl
    | true => exact hcompare (.ne _) rfl
  | isIn negated ss =>
    have hrest' : EndsOperand rest := .comparison hrest
    have hlist := ((Reads.atom_literals (ss.map Text.chars) rest).primary hrest').binary
      (.leftBracket _) hrest'
    have hlength := length_literalTokens (ss.map Text.chars)
    have hcompare {mid : List Token} {c : Comparison} (hmid : EndsOperand mid)
        (hc : comparison? mid = some (c, .mark .leftBracket ::
          (literalTokens (ss.map Text.chars) ++ .mark .rightBracket :: rest))) :=
      ((s.reads hmid).mono (by omega)).inversion_comparison (s.begins mid) hc hlist hrest
    cases negated with
    | false =>
      have hin := (hcompare (.inWord _) rfl).mono
        (l := (isIn false ss).tokens.length + 40) (by simp [tokens] at hlength ⊢; omega)
      simpa [tokens, tree] using hin
    | true =>
      have hnot := (hcompare (.notWord (.word .inWord :: _)) rfl).mono
        (l := (isIn true ss).tokens.length + 40) (by simp [tokens] at hlength ⊢; omega)
      simpa [tokens, tree] using hnot

end Test

namespace Check

/-- The tree of a check. -/
def tree (c : Check) : Expr :=
  if c.negated then .signed .not (c.test.tree c.subject.tree) else c.test.tree c.subject.tree

/-- A check is read as its test, below `not` where it is negated. -/
theorem reads (c : Check) (hrest : EndsComparison rest) :
    Reads inversion (c.tokens.length + 40) (c.tokens ++ rest) c.tree rest := by
  obtain ⟨negated, s, t⟩ := c
  have htest := Test.reads s t hrest
  cases negated with
  | false =>
    have h := htest.mono (l := (⟨false, s, t⟩ : Check).tokens.length + 40) (by simp [tokens])
    simpa [tokens, tree] using h
  | true =>
    have h := htest.inversion_not.mono (l := (⟨true, s, t⟩ : Check).tokens.length + 40)
      (by simp [tokens])
    simpa [tokens, tree] using h

end Check

/-- Tokens behind a clause. -/
inductive EndsClause : List Token → Prop
  /-- There are none. -/
  | nil : EndsClause []
  /-- Another clause follows. -/
  | orWord (ts : List Token) : EndsClause (.word .orWord :: ts)

/-- What ends a clause ends a comparison. -/
theorem EndsClause.endsComparison (h : EndsClause rest) : EndsComparison rest := by
  cases h with
  | nil => exact .nil
  | orWord ts => exact .orWord ts

namespace Clause

/-- The tree of a clause. -/
def tree (k : Clause) : Expr :=
  if (k.rest.map Check.tree).isEmpty then k.first.tree
  else .all (k.first.tree :: k.rest.map Check.tree)

/-- The tokens of the checks behind the first. -/
def moreTokens (cs : List Check) : List Token := cs.flatMap fun c => .word .andWord :: c.tokens

/-- The word `and` ends a comparison. -/
theorem endsComparison_more (cs : List Check) (hrest : EndsClause rest) :
    EndsComparison (moreTokens cs ++ rest) := by
  cases cs with
  | nil => exact hrest.endsComparison
  | cons c cs => exact .andWord _

/-- The checks behind the first one are read, up to the end of the clause. -/
theorem reads_more (cs : List Check) (hrest : EndsClause rest) :
    Reads moreInversions ((moreTokens cs).length + 41) (moreTokens cs ++ rest)
      (cs.map Check.tree) rest := by
  induction cs with
  | nil =>
    have hand (us : List Token) : rest ≠ .word .andWord :: us := by
      rintro rfl
      cases hrest
    exact (Reads.moreInversions_nil hand).mono (by decide)
  | cons c cs ih =>
    have hcheck := c.reads (endsComparison_more cs hrest)
    have hmore := hcheck.moreInversions_cons
      (ih.mono (l := c.tokens.length + (moreTokens cs).length + 41) (by omega)) (by omega)
    have hlength :
        (moreTokens (c :: cs)).length = c.tokens.length + (moreTokens cs).length + 1 := by
      simp [moreTokens]
    have hmore := hmore.mono (l := (moreTokens (c :: cs)).length + 41) (by omega)
    simpa [moreTokens] using hmore

/-- A clause is read as the conjunction of its checks, or as its only check. -/
theorem reads (k : Clause) (hrest : EndsClause rest) :
    Reads conjunction (k.tokens.length + 42) (k.tokens ++ rest) k.tree rest := by
  have hlength : k.tokens.length = k.first.tokens.length + (moreTokens k.rest).length := by
    simp [tokens, moreTokens]
  have hfirst := k.first.reads (endsComparison_more k.rest hrest)
  have hrest := (reads_more k.rest hrest).mono (l := k.tokens.length + 41) (by omega)
  simpa [tokens, moreTokens, tree] using hfirst.conjunction hrest (by omega)

end Clause

namespace Condition

/-- The tree of a condition. -/
def tree (c : Condition) : Expr :=
  if (c.rest.map Clause.tree).isEmpty then c.first.tree
  else .any (c.first.tree :: c.rest.map Clause.tree)

/-- The tokens of the clauses behind the first. -/
def moreTokens (ks : List Clause) : List Token := ks.flatMap fun k => .word .orWord :: k.tokens

/-- The word `or`, or the end of the text, ends a clause. -/
theorem endsClause_more (ks : List Clause) : EndsClause (moreTokens ks) := by
  cases ks with
  | nil => exact .nil
  | cons k ks => exact .orWord _

/-- The clauses behind the first one are read, up to the end of the text. -/
theorem reads_more (ks : List Clause) :
    Reads moreConjunctions ((moreTokens ks).length + 43) (moreTokens ks) (ks.map Clause.tree)
      [] := by
  induction ks with
  | nil => exact (Reads.moreConjunctions_nil fun us heq => by cases heq).mono (by decide)
  | cons k ks ih =>
    have hclause := k.reads (endsClause_more ks)
    have hmore := hclause.moreConjunctions_cons
      (ih.mono (l := k.tokens.length + (moreTokens ks).length + 43) (by omega)) (by omega)
    have hlength :
        (moreTokens (k :: ks)).length = k.tokens.length + (moreTokens ks).length + 1 := by
      simp [moreTokens]
    have hmore := hmore.mono (l := (moreTokens (k :: ks)).length + 43) (by omega)
    simpa [moreTokens] using hmore

/-- A condition is read as the disjunction of its clauses, or as its only clause. -/
theorem reads (c : Condition) : Reads expression (c.tokens.length + 45) c.tokens c.tree [] := by
  have hlength : c.tokens.length = c.first.tokens.length + (moreTokens c.rest).length := by
    simp [tokens, moreTokens]
  have hfirst := c.first.reads (endsClause_more c.rest)
  have hrest := (reads_more c.rest).mono (l := c.tokens.length + 43) (by omega)
  have hdisjunction := hfirst.disjunction hrest (by omega)
  have hhead (us : List Token) : c.tokens ≠ .word .lambdaWord :: us := by
    intro heq
    rw [tokens, Clause.tokens, Check.tokens, Subject.tokens] at heq
    cases hnegated : c.first.first.negated <;> cases hq : c.first.first.subject.qualified <;>
      simp [hnegated, hq] at heq
  have hexpression := hdisjunction.expression (by simpa [tokens, moreTokens] using hhead) .nil
  simpa [tokens, moreTokens, tree] using hexpression

/-- **The tree of a condition.** -/
theorem tree?_normalChars (c : Condition) : tree? c.normalChars = some c.tree := by
  obtain ⟨d, ds, heq, -, hd⟩ := c.exists_head
  have hlexes : Lexes 0 c.normalChars c.tokens := by
    have hlexes := c.lexes
    rw [Check.lead] at hlexes
    cases hnegated : c.first.first.negated with
    | false => simpa [hnegated] using hlexes
    | true => exact Lexes.of_blank (by simpa [hnegated] using hlexes)
  have htokens := hlexes (c.normalChars.length + 1) (Nat.lt_succ_self _)
  have hlength := length_lt_of_tokensFrom? htokens
  have hreads := c.reads (callDepth c.normalChars.length) (by rw [callDepth]; omega)
  have hline : tokens? c.normalChars = some c.tokens := by
    refine Option.bind_eq_some_iff.2 ⟨c.normalChars, ?_, htokens⟩
    rw [heq]
    exact lineStart?_token hd ds
  rw [tree?, universalNewlines_eq c.isBare_normalChars]
  refine Option.bind_eq_some_iff.2 ⟨c.tokens, hline, ?_⟩
  refine Option.bind_eq_some_iff.2 ⟨(c.tree, []), ?_, rfl⟩
  exact Option.bind_eq_some_iff.2 ⟨(c.tree, []), hreads, rfl⟩

end Condition
end Expression
end WorkflowKit
