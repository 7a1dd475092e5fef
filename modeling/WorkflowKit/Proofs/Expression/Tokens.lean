/-
# Texts and their tokens

`Lexes depth cs ts` says that a text inside `depth` brackets is cut into these tokens, whatever the
bound on the steps as long as it is greater than the length of the text.  The rules build the tokens
of a text from its end to its start.
-/

import WorkflowKit.Expression.Token.List
import WorkflowKit.Proofs.Expression.Quotation

namespace WorkflowKit
namespace Expression

/-- The tokens of a text inside brackets. -/
def Lexes (depth : Nat) (cs : List Char) (ts : List Token) : Prop :=
  ∀ fuel, cs.length < fuel → tokensFrom? fuel depth cs = some ts

/-- Whether a character begins a token. -/
def beginsToken (c : Char) : Bool := !isGap c && c != '#' && c != '\\' && c != '\n'

variable {depth inner : Nat} {c : Char} {cs rest : List Char} {t : Token} {ts : List Token}

theorem lineStart?_token (hc : beginsToken c = true) (cs : List Char) :
    lineStart? false false false (c :: cs) = some (c :: cs) := by
  simp only [beginsToken, isGap, Bool.and_eq_true, Bool.not_eq_true', bne_iff_ne,
    Bool.or_eq_false_iff, beq_eq_false_iff_ne] at hc
  obtain ⟨⟨⟨⟨⟨hblank, htab⟩, hfeed⟩, hcomment⟩, hbackslash⟩, hlineFeed⟩ := hc
  unfold lineStart?
  rw [if_neg hlineFeed, if_neg Bool.false_ne_true, if_neg (not_or.2 ⟨hblank, htab⟩), if_neg hfeed,
    if_neg hcomment, if_neg hbackslash, if_neg (by simp)]

/-- One quote more behind the opening one is the closing one, or the second of three. -/
theorem afterQuote?_of_untilQuote? {q : Char} {body : List Char}
    (h : untilQuote? q cs = some (body, rest)) (hq : body ≠ [] ∨ rest.head? ≠ some q) :
    afterQuote? q cs = some (body, rest) := by
  unfold afterQuote?
  split
  · next c d cs =>
    rw [if_neg]
    · exact h
    · rintro ⟨rfl, rfl⟩
      rw [untilQuote?, if_pos rfl] at h
      cases h
      simp at hq
  · exact h

namespace Lexes

theorem nil : Lexes 0 [] [] := fun fuel h => by
  cases fuel with
  | zero => cases h
  | succ fuel => rfl

theorem blank (h : Lexes depth cs ts) : Lexes depth (' ' :: cs) ts := fun fuel hfuel => by
  cases fuel with
  | zero => cases hfuel
  | succ fuel => exact h fuel (Nat.lt_of_succ_lt_succ hfuel)

theorem of_blank (h : Lexes depth (' ' :: cs) ts) : Lexes depth cs ts := fun fuel hfuel =>
  h (fuel + 1) (Nat.succ_lt_succ hfuel)

/-- One token more at the front. -/
theorem token (h : Lexes inner rest ts) (hc : beginsToken c = true)
    (ht : token? (c :: cs) = some (t, rest)) (hdepth : depthAfter? depth t = some inner)
    (hrest : rest.length ≤ cs.length) : Lexes depth (c :: cs) (t :: ts) := fun fuel hfuel => by
  cases fuel with
  | zero => cases hfuel
  | succ fuel =>
    have htokens := h fuel (Nat.lt_of_le_of_lt hrest (Nat.lt_of_succ_lt_succ hfuel))
    simp only [beginsToken, Bool.and_eq_true, Bool.not_eq_true', bne_iff_ne] at hc
    obtain ⟨⟨⟨hgap, hcomment⟩, hbackslash⟩, hlineFeed⟩ := hc
    unfold tokensFrom?
    rw [if_neg (by simp [hgap]), if_neg hcomment, if_neg hbackslash, if_neg hlineFeed]
    refine Option.bind_eq_some_iff.2 ⟨(t, rest), ht, ?_⟩
    exact Option.bind_eq_some_iff.2 ⟨inner, hdepth, Option.map_eq_some_iff.2 ⟨ts, htokens, rfl⟩⟩

/-- A text between single quotes. -/
theorem quoted (h : Lexes depth rest ts) (hrest : rest.head? ≠ some '\x27') (s : List Char) :
    Lexes depth (quotedChars s ++ rest) (.quotation (quotation s) :: ts) := by
  have hafter := afterQuote?_of_untilQuote? (untilQuote?_escaped s rest) (.inr hrest)
  rw [quotedChars, List.cons_append, List.append_assoc, List.singleton_append]
  refine h.token rfl ?_ rfl (by simp; omega)
  show (((afterQuote? '\x27' _).bind
    fun p => some ((⟨false, false, false, p.1⟩ : Quotation), p.2)).map
    fun p => (Token.quotation p.1, p.2)) = _
  rw [hafter]
  rfl

end Lexes

/-- A text has fewer tokens than steps were taken. -/
theorem length_lt_of_tokensFrom? {fuel : Nat} (h : tokensFrom? fuel depth cs = some ts) :
    ts.length < fuel := by
  fun_induction tokensFrom? fuel depth cs generalizing ts with
  | case1 | case3 | case6 | case8 => cases h
  | case2 =>
    cases h
    exact Nat.succ_pos _
  | case4 _ _ _ _ _ ih | case5 _ _ _ _ ih | case7 _ _ _ _ _ _ ih | case9 _ _ _ _ _ _ _ ih =>
    exact Nat.lt_succ_of_lt (ih h)
  | case10 fuel depth cs _ _ _ _ ih =>
    obtain ⟨rest, -, h⟩ := Option.bind_eq_some_iff.1 h
    obtain ⟨us, hus, rfl⟩ := Option.map_eq_some_iff.1 h
    exact Nat.succ_lt_succ (ih rest hus)
  | case11 fuel depth c cs _ _ _ _ ih =>
    obtain ⟨⟨t, rest⟩, -, h⟩ := Option.bind_eq_some_iff.1 h
    obtain ⟨inner, -, h⟩ := Option.bind_eq_some_iff.1 h
    obtain ⟨us, hus, rfl⟩ := Option.map_eq_some_iff.1 h
    exact Nat.succ_lt_succ (ih rest inner hus)

end Expression
end WorkflowKit
