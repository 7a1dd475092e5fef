/-
# Escaped texts between quotes

A text with its escapes (`escaped`) holds neither a quote nor a line end of its own, so that it goes
up to the closing quote (`untilQuote?_escaped`), and its escapes stand for the characters that they
were written for (`unescapedFrom_escaped`).
-/

import WorkflowKit.Expression.Formatted
import WorkflowKit.Proofs.Expression.Condition

namespace WorkflowKit
namespace Expression

/-- A character that needs no escape. -/
structure Ordinary (c : Char) : Prop where
  /-- It is no quote. -/
  quote : c ≠ '\x27'
  /-- It is no backslash. -/
  backslash : c ≠ '\\'
  /-- It is no line feed. -/
  lineFeed : c ≠ '\n'
  /-- It is no carriage return. -/
  carriageReturn : c ≠ '\r'
  /-- It is not the null character. -/
  null : c ≠ '\x00'

/-- An escape: the characters `ds` and a backslash before them stand for `c`. -/
structure IsEscape (c : Char) (ds : List Char) : Prop where
  /-- There is a character behind the backslash, and it is no control character. -/
  head : ∃ d more, ds = d :: more ∧ d ≠ '\n' ∧ d ≠ '\r' ∧ d ≠ '\x00' ∧ ∀ e ∈ more, Ordinary e
  /-- It is read as `c`. -/
  reads : ∀ rest, escape? (ds ++ rest) = some ([.char c], ds.length)

theorem escaped_cases (c : Char) :
    (escaped c = [c] ∧ Ordinary c) ∨ ∃ ds, escaped c = '\\' :: ds ∧ IsEscape c ds := by
  have hplain {d c : Char} (hd : d ≠ '\n' ∧ d ≠ '\r' ∧ d ≠ '\x00')
      (h : ∀ rest, escape? (d :: rest) = some ([.char c], 1)) : IsEscape c [d] :=
    ⟨⟨d, [], rfl, hd.1, hd.2.1, hd.2.2, fun e he => nomatch he⟩, h⟩
  unfold escaped
  split
  · exact .inr ⟨_, rfl, hplain (by decide) fun _ => rfl⟩
  · exact .inr ⟨_, rfl, hplain (by decide) fun _ => rfl⟩
  · exact .inr ⟨_, rfl, hplain (by decide) fun _ => rfl⟩
  · exact .inr ⟨_, rfl, hplain (by decide) fun _ => rfl⟩
  · have hzero : Ordinary '0' := by constructor <;> decide
    refine .inr ⟨_, rfl, ⟨'x', ['0', '0'], rfl, by decide, by decide, by decide, ?_⟩, fun _ => rfl⟩
    simpa using hzero
  · next h₁ h₂ h₃ h₄ h₅ => exact .inl ⟨rfl, h₂, h₁, h₃, h₄, h₅⟩

variable {q : Char} {cs rest : List Char}

/-- The characters of a text with its escapes are no control characters that would need one. -/
theorem mem_escaped {d : Char} (h : d ∈ cs.flatMap escaped) :
    d ≠ '\n' ∧ d ≠ '\r' ∧ d ≠ '\x00' := by
  obtain ⟨c, -, hd⟩ := List.mem_flatMap.1 h
  obtain ⟨hc, hordinary⟩ | ⟨ds, hc, ⟨e, more, rfl, he₁, he₂, he₃, hmore⟩, -⟩ := escaped_cases c
  · rw [hc, List.mem_singleton] at hd
    rw [hd]
    exact ⟨hordinary.lineFeed, hordinary.carriageReturn, hordinary.null⟩
  · rw [hc] at hd
    rcases List.mem_cons.1 hd with rfl | hd
    · decide
    · rcases List.mem_cons.1 hd with rfl | hd
      · exact ⟨he₁, he₂, he₃⟩
      · exact ⟨(hmore _ hd).lineFeed, (hmore _ hd).carriageReturn, (hmore _ hd).null⟩

/-! ### Up to the closing quote -/

theorem untilQuote?_cons {c : Char} (hq : c ≠ q) (hn : c ≠ '\n') (hc : c ≠ '\\')
    (cs : List Char) :
    untilQuote? q (c :: cs) = (untilQuote? q cs).map fun p => (c :: p.1, p.2) := by
  cases cs with
  | nil => simp [untilQuote?, hq]
  | cons d cs => rw [untilQuote?, if_neg hq, if_neg hn, if_neg hc]

theorem untilQuote?_ordinary {ds body : List Char} (hds : ∀ d ∈ ds, Ordinary d)
    (h : untilQuote? '\x27' cs = some (body, rest)) :
    untilQuote? '\x27' (ds ++ cs) = some (ds ++ body, rest) := by
  induction ds with
  | nil => exact h
  | cons d ds ih =>
    have hd := hds d List.mem_cons_self
    rw [List.cons_append, untilQuote?_cons hd.quote hd.lineFeed hd.backslash,
      ih fun e he => hds e (List.mem_cons_of_mem d he)]
    rfl

/-- A text with its escapes goes up to the closing quote. -/
theorem untilQuote?_escaped (cs rest : List Char) :
    untilQuote? '\x27' (cs.flatMap escaped ++ '\x27' :: rest) =
      some (cs.flatMap escaped, rest) := by
  induction cs with
  | nil =>
    cases rest with
    | nil => rfl
    | cons d rest => rw [List.flatMap_nil, List.nil_append, untilQuote?, if_pos rfl]
  | cons c cs ih =>
    rw [List.flatMap_cons, List.append_assoc]
    obtain ⟨hc, hordinary⟩ | ⟨ds, hc, ⟨d, more, rfl, hd, -, -, hmore⟩, -⟩ := escaped_cases c
    · rw [hc]
      exact untilQuote?_ordinary (by simpa using hordinary) ih
    · rw [hc, List.cons_append, List.cons_append, untilQuote?, if_neg (by decide),
        if_neg (by decide), if_pos rfl, untilQuote?_ordinary hmore ih]
      rfl

/-! ### What the escapes stand for -/

theorem unescapedFrom_append (ds rest : List Char) :
    unescapedFrom ds.length (ds ++ rest) = unescapedFrom 0 rest := by
  induction ds with
  | nil => rfl
  | cons d ds ih => exact ih

/-- The escapes of a text stand for its characters. -/
theorem unescapedFrom_escaped (cs : List Char) :
    unescapedFrom 0 (cs.flatMap escaped) = some (cs.map .char) := by
  induction cs with
  | nil => rfl
  | cons c cs ih =>
    rw [List.flatMap_cons, List.map_cons]
    obtain ⟨hc, hordinary⟩ | ⟨ds, hc, hescape⟩ := escaped_cases c
    · rw [hc, List.singleton_append, unescapedFrom, if_neg hordinary.backslash, ih]
      rfl
    · rw [hc, List.cons_append, unescapedFrom, if_pos rfl, hescape.reads]
      dsimp only [Option.bind_eq_bind, Option.bind_some]
      rw [unescapedFrom_append, ih]
      rfl

/-- A text between single quotes. -/
def quotation (cs : List Char) : Quotation where
  bytes := false
  raw := false
  formatted := false
  body := cs.flatMap escaped

/-- A text between single quotes stands for the text. -/
theorem pieces?_quotation (cs : List Char) :
    (quotation cs).pieces? = some [.text (.ofChars cs)] := by
  rw [Quotation.pieces?, if_neg (by simp [quotation]), if_neg (by simp [quotation]), unescaped?,
    if_neg (by simp [quotation]), quotation, unescapedFrom_escaped]
  rfl

/-- The characters of a text between single quotes, with the quotes. -/
def quotedChars (cs : List Char) : List Char := '\x27' :: (cs.flatMap escaped ++ ['\x27'])

end Expression
end WorkflowKit
