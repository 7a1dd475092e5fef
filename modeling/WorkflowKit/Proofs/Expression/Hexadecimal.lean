/-
# Hexadecimal integers of any length

The limit on the digits of an integer concerns base 10 only.  So a short expression in base 16 may
have a value that cannot be written (`evaluate_hexadecimal`), alone or beside an attribute
(`compile_pairedChars`).
-/

import WorkflowKit.Expression.Source
import WorkflowKit.Proofs.Expression.Reading
import WorkflowKit.Proofs.Expression.Spelling
import WorkflowKit.Proofs.Expression.Tokens
import WorkflowKit.Proofs.Number.Decimal

namespace WorkflowKit
namespace Expression

/-- The greatest integer with `n` hexadecimal digits. -/
def hexadecimal (n : Nat) : List Char := '0' :: 'x' :: List.replicate n 'f'

/-- The value of `n` digits `f` is one less than a power of 16. -/
theorem digitsValue_replicate (n : Nat) :
    Number.digitsValue 16 (List.replicate n 'f') + 1 = 16 ^ n := by
  have hdigit : Number.digitValue? 'f' = some 15 := by decide
  induction n with
  | zero => rfl
  | succ n ih =>
    have hlast : Number.digitsValue 16 (List.replicate n 'f' ++ ['f']) =
        16 * Number.digitsValue 16 (List.replicate n 'f') + 15 := by
      rw [Number.digitsValue_append, List.foldl_cons, List.foldl_nil, hdigit]
    rw [List.replicate_succ', hlast, Nat.pow_succ]
    omega

/-- They are read as one run of digits. -/
theorem digitRun?_replicate (n : Nat) :
    digitRun? (isDigitOf 16) (List.replicate n 'f') = some (List.replicate n 'f', []) := by
  have hdigit : isDigitOf 16 'f' = true := by decide
  induction n with
  | zero => rfl
  | succ n ih =>
    cases n with
    | zero => rfl
    | succ n =>
      rw [List.replicate_succ, List.replicate_succ, digitRun?, if_pos hdigit,
        ← List.replicate_succ, ih]
      rfl

/-! ### The normal form -/

/-- The characters of such an integer. -/
theorem mem_hexadecimal {n : Nat} {c : Char} (h : c ∈ hexadecimal n) :
    c = '0' ∨ c = 'x' ∨ c = 'f' := by
  rw [hexadecimal, List.mem_cons, List.mem_cons] at h
  exact h.imp_right (Or.imp_right fun h => (List.mem_replicate.1 h).2)

/-- A row of letters `f` goes on with the word before it. -/
theorem respellWords_replicate (run : List Char) (n : Nat) :
    respellWords run (List.replicate n 'f') = respell (run.reverse ++ List.replicate n 'f') := by
  have hword : Text.isWord 'f' = true := by decide
  induction n generalizing run with
  | zero => rw [List.replicate_zero, respellWords, List.append_nil]
  | succ n ih => rw [List.replicate_succ, respellWords, if_pos hword, ih]; simp

/-- It holds no sign. -/
theorem respellSigns_replicate (n : Nat) :
    respellSigns (List.replicate n 'f') = List.replicate n 'f' := by
  induction n with
  | zero => rfl
  | succ n ih => simp [List.replicate_succ, respellSigns, ih]

/-- An integer in base 16 is one word, and none that has another spelling. -/
theorem spelled_hexadecimal (n : Nat) : spelled (hexadecimal n) = hexadecimal n := by
  have hzero : Text.isWord '0' = true := by decide
  have hx : Text.isWord 'x' = true := by decide
  have hrespell : respell (hexadecimal n) = hexadecimal n := by
    obtain h | ⟨e, he, heq, -⟩ := respell_cases (hexadecimal n)
    · exact h
    · have hhead : ∀ e ∈ wordSpellings, e.1.head? ≠ some '0' := by decide
      exact absurd (by rw [← heq]; rfl) (hhead e he)
  rw [spelled, hexadecimal, respellWords, if_pos hzero, respellWords, if_pos hx,
    respellWords_replicate, List.reverse_cons, List.reverse_singleton]
  show respellSigns (respell (hexadecimal n)) = _
  rw [hrespell, hexadecimal]
  simp [respellSigns, respellSigns_replicate]

/-- A text without quotes that is spelled as it is, and neither begins nor ends with a blank. -/
theorem normalChars_eq_self {c : Char} {cs : List Char} (hplain : isPlain (c :: cs) = true)
    (hspelled : spelled (c :: cs) = c :: cs) (hc : Text.isBlank c = false)
    (hends : EndsInk (c :: cs)) : normalChars (c :: cs) = c :: cs := by
  have hlead : ∀ c ∈ ([] : List Char), Text.isBlank c = true := by simp
  show Text.strip (normalFrom (c :: cs)) = _
  rw [normalFrom_of_plain hplain, hspelled]
  exact strip_eq hlead hc hends

/-- It ends with a digit, or with its sign `x`. -/
theorem endsInk_hexadecimal (n : Nat) : EndsInk (hexadecimal n) := by
  refine ⟨(hexadecimal n).dropLast, (hexadecimal n).getLast (by simp [hexadecimal]), ?_, ?_⟩
  · exact (List.dropLast_concat_getLast _).symm
  · rcases mem_hexadecimal (List.getLast_mem (l := hexadecimal n) (by simp [hexadecimal]))
      with h | h | h <;> rw [h] <;> rfl

/-- It holds no quotes. -/
theorem isPlain_hexadecimal (n : Nat) : isPlain (hexadecimal n) = true := by
  rw [isPlain, List.all_eq_true]
  intro c hc
  rcases mem_hexadecimal hc with rfl | rfl | rfl <;> rfl

/-- It holds neither a carriage return nor a null character. -/
theorem isBare_hexadecimal (n : Nat) : isBare (hexadecimal n) = true := by
  rw [isBare, List.all_eq_true]
  intro c hc
  rcases mem_hexadecimal hc with rfl | rfl | rfl <;> rfl

/-- So it is its own normal form. -/
theorem normalChars_hexadecimal (n : Nat) : normalChars (hexadecimal n) = hexadecimal n :=
  normalChars_eq_self (isPlain_hexadecimal n) (spelled_hexadecimal n) rfl (endsInk_hexadecimal n)

/-! ### The tree -/

/-- It is cut into one token, whatever its length: the limit on digits is one of base 10. -/
theorem lexes_hexadecimal (n : Nat) :
    Lexes 0 (hexadecimal (n + 1)) [.numeral (.int (16 ^ (n + 1) - 1))] := by
  have hnumeral : token? (hexadecimal (n + 1)) =
      some (.numeral (.int (16 ^ (n + 1) - 1)), []) := by
    show (numeral? (hexadecimal (n + 1))).map _ = _
    rw [hexadecimal, numeral?, if_pos (.inl rfl), basedNumeral?, digitRun?_replicate]
    show some (Token.numeral (.int (Number.digitsValue 16 (List.replicate (n + 1) 'f'))), _) = _
    rw [← digitsValue_replicate (n + 1), Nat.add_sub_cancel]
  exact Lexes.nil.token rfl hnumeral rfl (Nat.zero_le _)

/-- No other token follows. -/
theorem tokens?_hexadecimal (n : Nat) :
    tokens? (hexadecimal (n + 1)) = some [.numeral (.int (16 ^ (n + 1) - 1))] := by
  rw [tokens?, hexadecimal, lineStart?_token rfl]
  exact lexes_hexadecimal n _ (Nat.lt_succ_self _)

/-- It is read as a constant. -/
theorem tree?_hexadecimal (n : Nat) :
    tree? (hexadecimal (n + 1)) = some (.constant (.int (16 ^ (n + 1) - 1))) := by
  obtain ⟨depth, hdepth⟩ : ∃ depth, callDepth (hexadecimal (n + 1)).length = depth + 64 :=
    ⟨_, rfl⟩
  rw [tree?, universalNewlines_eq (isBare_hexadecimal _), tokens?_hexadecimal, hdepth]
  rfl

/-- **An integer in base 16 may have any number of digits.** -/
theorem evaluate_hexadecimal (vars : Variables) (n : Nat) :
    evaluate vars (String.ofList (hexadecimal (n + 1))) = .ok (.int (16 ^ (n + 1) - 1 : Nat)) := by
  have hcompile : compile (String.ofList (hexadecimal (n + 1))) =
      .ok (.constant (.int (16 ^ (n + 1) - 1))) := by
    rw [compile, String.toList_ofList, normalChars_hexadecimal,
      contains_null (isBare_hexadecimal _), tree?_hexadecimal]
    rfl
  rw [evaluate, hcompile]
  rfl

/-! ### Beside an attribute -/

/-- How a pair of an attribute and an integer is written. -/
def pairedChars (s : Subject) (n : Nat) : List Char := s.chars ++ ' ' :: ',' :: ' ' :: hexadecimal n

/-- The tree of a pair of an attribute and an integer. -/
def pairedTree (s : Subject) (n : Nat) : Expr := .tuple [s.tree, .constant (.int (16 ^ n - 1))]

/-- A pair of an attribute and such an integer is bare. -/
theorem isBare_pairedChars (s : Subject) (n : Nat) : isBare (pairedChars s n) = true := by
  simp [pairedChars, s.isBare_chars, isBare_hexadecimal]

/-- A pair of an attribute and such an integer is its own normal form. -/
theorem normalChars_pairedChars (s : Subject) (n : Nat) :
    normalChars (pairedChars s n) = pairedChars s n := by
  obtain ⟨hsubject, hsame⟩ := Check.spelled_subject false s
  have hplain : isPlain (pairedChars s n) = true := by
    rw [isPlain, pairedChars, List.all_append, Bool.and_eq_true]
    exact ⟨hsubject, isPlain_hexadecimal n⟩
  have hspelled : spelled (pairedChars s n) = pairedChars s n := by
    have hcomma : spelled (',' :: ' ' :: hexadecimal n) = ',' :: ' ' :: hexadecimal n := by
      rw [← List.singleton_append, spelled_blank, spelled_hexadecimal]
      rfl
    rw [pairedChars, spelled_blank, hcomma]
    exact congrArg (· ++ _) hsame
  have hends : EndsInk (pairedChars s n) :=
    ((endsInk_hexadecimal n).append [' ', ',', ' ']).append s.chars
  obtain ⟨attr, qualified⟩ := s
  cases qualified with
  | true => exact normalChars_eq_self hplain hspelled rfl hends
  | false => cases attr <;> exact normalChars_eq_self hplain hspelled rfl hends

/-- It is cut into the attribute, a comma and the integer. -/
theorem tokens?_pairedChars (s : Subject) (n : Nat) :
    tokens? (pairedChars s (n + 1)) =
      some (s.tokens ++ [.mark .comma, .numeral (.int (16 ^ (n + 1) - 1))]) := by
  have hcomma : Lexes 0 (',' :: ' ' :: hexadecimal (n + 1)) _ :=
    (lexes_hexadecimal n).blank.token rfl rfl rfl (by simp)
  have hlexes : Lexes 0 (pairedChars s (n + 1)) _ := s.lexes hcomma.blank
  have hstart : lineStart? false false false (pairedChars s (n + 1)) =
      some (pairedChars s (n + 1)) := by
    obtain ⟨attr, qualified⟩ := s
    cases qualified with
    | true => exact lineStart?_token rfl _
    | false => cases attr <;> exact lineStart?_token rfl _
  rw [tokens?, hstart]
  exact hlexes _ (Nat.lt_succ_self _)

/-- It is read as a tuple without parentheses. -/
theorem tree?_pairedChars (s : Subject) (n : Nat) :
    tree? (pairedChars s (n + 1)) = some (pairedTree s (n + 1)) := by
  obtain ⟨depth, hdepth⟩ : ∃ depth, callDepth (pairedChars s (n + 1)).length = depth + 64 :=
    ⟨_, rfl⟩
  rw [tree?, universalNewlines_eq (isBare_pairedChars s _), tokens?_pairedChars, hdepth]
  obtain ⟨attr, qualified⟩ := s
  cases qualified <;> rfl

/-- A pair of an attribute and an integer in base 16 of any length. -/
theorem compile_pairedChars (s : Subject) (n : Nat) :
    compile (String.ofList (pairedChars s (n + 1))) = .ok (pairedTree s (n + 1)) := by
  rw [compile, String.toList_ofList, normalChars_pairedChars,
    contains_null (isBare_pairedChars s _), tree?_pairedChars]
  obtain ⟨attr, qualified⟩ := s
  cases qualified <;> rfl

end Expression
end WorkflowKit
