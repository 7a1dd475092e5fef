/-
# Conditions in normal form

In the normal form of a condition the operators of equations are signs, and words stand for `!`,
`&&` and `||` (`Condition.normalChars_chars`).  What is looked for is left as it is, whatever
operators it holds.  The lemmas follow the syntax of conditions: a test behind its subject, a check,
then what stands between checks and between clauses.
-/

import WorkflowKit.Proofs.Expression.Normal
import WorkflowKit.Proofs.Expression.Tokens
import WorkflowKit.Proofs.Text.Blank

namespace WorkflowKit
namespace Expression

/-- The characters of a part. -/
def Part.chars : Part → List Char
  | plain cs => cs
  | literal s => quotedChars s.chars

/-- The characters of literals with commas in front of them. -/
def moreListedChars (ss : List Text) : List Char :=
  ss.flatMap fun s => ',' :: ' ' :: quotedChars s.chars

/-- The characters of literals with commas between them. -/
def listedChars : List Text → List Char
  | [] => []
  | s :: ss => quotedChars s.chars ++ moreListedChars ss

/-- The parts of a list of literals are written with commas between the literals. -/
theorem flatMap_chars_listed (ss : List Text) :
    (listed ss).flatMap Part.chars = listedChars ss := by
  cases ss with
  | nil => rfl
  | cons s ss => simp [listed, listedChars, moreListedChars, Part.chars, List.flatMap_assoc]

/-- A text that ends or goes on with a blank. -/
def EndsWord (cs : List Char) : Prop := cs = [] ∨ ∃ more, cs = ' ' :: more

variable {w v cs : List Char}

/-- A plain word in front of a blank is a piece of its own: it is spelled anew, and the rest is
brought into normal form behind it. -/
theorem normalFrom_word (hw : isPlain w = true) (hv : spelled w = v) (hcs : EndsWord cs) :
    normalFrom (w ++ cs) = v ++ normalFrom cs := by
  obtain rfl | ⟨more, rfl⟩ := hcs
  · have hend : normalFrom [] = [] := normalFrom_of_plain rfl
    rw [hend, List.append_nil, List.append_nil, normalFrom_of_plain hw, hv]
  · have hblank : normalFrom (' ' :: more) = ' ' :: normalFrom more :=
      normalFrom_blank (w := []) rfl rfl
    rw [hblank, normalFrom_blank hw hv]

/-- A plain word in front of a literal is spelled anew, the literal is kept, and the normal form
goes on behind it. -/
theorem normalFrom_quoted (hw : isPlain w = true) (hv : spelled w = v) (s cs : List Char) :
    normalFrom (w ++ (quotedChars s ++ cs)) = v ++ (quotedChars s ++ normalFrom cs) := by
  have hbody : ¬ continuation <:+: s.flatMap escaped := fun h =>
    (mem_escaped (h.subset (List.mem_cons_of_mem _ List.mem_cons_self))).1 rfl
  have h := normalFrom_literal hw hv (q := '\x27') rfl (untilQuote?_escaped s cs) hbody
  simpa [quotedChars] using h

/-! ### Checks in normal form -/

namespace Test

/-- A test whose operator is a sign. -/
def normal : Test → Test
  | equals negated _ s => equals negated true s
  | isIn negated ss => isIn negated ss

/-- The characters of a test. -/
def chars (t : Test) : List Char := t.parts.flatMap Part.chars

/-- A comparison is written as its operator between blanks, with the literal behind it. -/
theorem chars_equals (negated sign : Bool) (s : Text) :
    (equals negated sign s).chars =
      ' ' :: (operator negated sign ++ ' ' :: quotedChars s.chars) := by
  simp [chars, parts, Part.chars]

/-- A membership test is written as its words between blanks, with the literals in brackets behind
them. -/
theorem chars_isIn (negated : Bool) (ss : List Text) :
    (isIn negated ss).chars =
      ' ' :: (membership negated ++ ' ' :: '[' :: (listedChars ss ++ [']'])) := by
  simp [chars, parts, Part.chars, flatMap_chars_listed]

/-- The literals behind the first one of a list, with their commas and the bracket behind them, are
in normal form already. -/
theorem normalFrom_moreListed (ss : List Text) (hcs : EndsWord cs) :
    normalFrom (moreListedChars ss ++ ']' :: cs) = moreListedChars ss ++ ']' :: normalFrom cs := by
  induction ss with
  | nil => exact normalFrom_word (w := [']']) rfl rfl hcs
  | cons s ss ih =>
    have hsplit (ds : List Char) : moreListedChars (s :: ss) ++ ']' :: ds =
        [','] ++ ' ' :: ([] ++ (quotedChars s.chars ++ (moreListedChars ss ++ ']' :: ds))) := by
      simp [moreListedChars]
    rw [hsplit, hsplit, normalFrom_blank rfl rfl, normalFrom_quoted rfl rfl, ih]
    rfl

/-- A list of literals in brackets is in normal form already. -/
theorem normalFrom_listed (ss : List Text) (hcs : EndsWord cs) :
    normalFrom ('[' :: (listedChars ss ++ ']' :: cs)) =
      '[' :: (listedChars ss ++ ']' :: normalFrom cs) := by
  cases ss with
  | nil => exact normalFrom_word (w := ['[', ']']) rfl rfl hcs
  | cons s ss =>
    have hsplit (ds : List Char) : '[' :: (listedChars (s :: ss) ++ ']' :: ds) =
        ['['] ++ (quotedChars s.chars ++ (moreListedChars ss ++ ']' :: ds)) := by
      simp [listedChars]
    rw [hsplit, hsplit, normalFrom_quoted rfl rfl, normalFrom_moreListed ss hcs]
    rfl

/-- The operator of an equation is spelled as a sign, whether a word or a sign was written. -/
theorem spelled_operator (negated sign : Bool) :
    isPlain (operator negated sign) = true ∧
      spelled (operator negated sign) = operator negated true := by
  revert negated sign
  decide

/-- The words of a membership test are kept. -/
theorem spelled_membership (negated : Bool) :
    isPlain (membership negated) = true ∧
      spelled (membership negated) = membership negated := by
  revert negated
  decide

/-- A test behind its subject. -/
theorem normalFrom_chars (hw : isPlain w = true) (hv : spelled w = v) (t : Test)
    (hcs : EndsWord cs) :
    normalFrom (w ++ (t.chars ++ cs)) = v ++ (t.normal.chars ++ normalFrom cs) := by
  cases t with
  | equals negated sign s =>
    obtain ⟨hplain, hspelled⟩ := spelled_operator negated sign
    have hsplit (sign : Bool) (ds : List Char) : (equals negated sign s).chars ++ ds =
        ' ' :: (operator negated sign ++ ' ' :: ([] ++ (quotedChars s.chars ++ ds))) := by
      simp [chars_equals]
    rw [normal, hsplit, hsplit, normalFrom_blank hw hv, normalFrom_blank hplain hspelled,
      normalFrom_quoted rfl rfl]
    rfl
  | isIn negated ss =>
    obtain ⟨hplain, hspelled⟩ := spelled_membership negated
    have hsplit (ds : List Char) : (isIn negated ss).chars ++ ds =
        ' ' :: (membership negated ++ ' ' :: '[' :: (listedChars ss ++ ']' :: ds)) := by
      simp [chars_isIn]
    rw [normal, hsplit, hsplit, normalFrom_blank hw hv, normalFrom_blank hplain hspelled,
      normalFrom_listed ss hcs]

end Test

namespace Check

/-- The characters of a check. -/
def chars (c : Check) : List Char := c.parts.flatMap Part.chars

/-- The characters of a check in normal form, behind the blank that comes before `not`. -/
def normalChars (c : Check) : List Char :=
  (if c.negated then ['n', 'o', 't', ' '] else []) ++ (c.subject.chars ++ c.test.normal.chars)

/-- The blank that comes before `not`. -/
def lead (c : Check) : List Char := if c.negated then [' '] else []

/-- The sign `!` in front of a subject becomes `not` between blanks, and the subject itself is kept.
-/
theorem spelled_subject (negated : Bool) (s : Subject) :
    isPlain ((if negated then ['!'] else []) ++ s.chars) = true ∧
      spelled ((if negated then ['!'] else []) ++ s.chars) =
        (if negated then [' ', 'n', 'o', 't', ' '] else []) ++ s.chars := by
  obtain ⟨attr, qualified⟩ := s
  revert negated qualified
  cases attr <;> decide

/-- The normal form of a check, in front of anything that begins with a blank: the blank before
`not` comes first, then the check with its operators as signs. -/
theorem normalFrom_chars (c : Check) (hcs : EndsWord cs) :
    normalFrom (c.chars ++ cs) = (c.lead ++ c.normalChars) ++ normalFrom cs := by
  obtain ⟨hplain, hspelled⟩ := spelled_subject c.negated c.subject
  have hsplit : c.chars ++ cs =
      ((if c.negated then ['!'] else []) ++ c.subject.chars) ++ (c.test.chars ++ cs) := by
    simp [chars, parts, Part.chars, Test.chars]
  rw [hsplit, Test.normalFrom_chars hplain hspelled c.test hcs, lead, normalChars]
  cases c.negated <;> simp

end Check

/-! ### Conditions in normal form -/

/-- Texts with a connective in front of each. -/
def behindEach {α : Type} (connective : List Char) (chars : α → List Char) (as : List α) :
    List Char :=
  as.flatMap fun a => ' ' :: (connective ++ ' ' :: chars a)

section Joined

variable {α : Type} {sign word : List Char} {chars normal : α → List Char}

/-- What stands behind a check begins with a blank or is empty. -/
theorem endsWord_behindEach (sign : List Char) (chars : α → List Char) (as : List α)
    (hcs : EndsWord cs) : EndsWord (behindEach sign chars as ++ cs) := by
  cases as with
  | nil => exact hcs
  | cons a as => exact .inr ⟨_, rfl⟩

/-- The signs between texts become words. -/
theorem normalFrom_behindEach (hplain : isPlain sign = true) (hspelled : spelled sign = word)
    (h : ∀ a cs, EndsWord cs → normalFrom (chars a ++ cs) = normal a ++ normalFrom cs)
    (as : List α) (hcs : EndsWord cs) :
    normalFrom (behindEach sign chars as ++ cs) =
      behindEach word normal as ++ normalFrom cs := by
  induction as with
  | nil => rfl
  | cons a as ih =>
    have hsplit (connective : List Char) (chars : α → List Char) (ds : List Char) :
        behindEach connective chars (a :: as) ++ ds =
          [] ++ ' ' ::
            (connective ++ ' ' :: (chars a ++ (behindEach connective chars as ++ ds))) := by
      simp [behindEach]
    rw [hsplit, hsplit, normalFrom_blank rfl rfl, normalFrom_blank hplain hspelled,
      h a _ (endsWord_behindEach sign chars as hcs), ih]
    rfl

end Joined

namespace Clause

/-- The characters of a clause. -/
def chars (k : Clause) : List Char := k.parts.flatMap Part.chars

/-- The characters of a clause in normal form, behind the blank that comes before `not`. -/
def normalChars (k : Clause) : List Char :=
  k.first.normalChars ++
    behindEach [' ', 'a', 'n', 'd', ' '] (fun c => c.lead ++ c.normalChars) k.rest

/-- A clause is written as its first check, with `&&` and a check for each of the others. -/
theorem chars_eq (k : Clause) :
    k.chars = k.first.chars ++ behindEach ['&', '&'] Check.chars k.rest := by
  simp [chars, parts, Check.chars, List.flatMap_assoc, Part.chars, behindEach]

/-- The normal form of a clause: every `&&` between its checks becomes `and`. -/
theorem normalFrom_chars (k : Clause) (hcs : EndsWord cs) :
    normalFrom (k.chars ++ cs) = (k.first.lead ++ k.normalChars) ++ normalFrom cs := by
  have hand : spelled ['&', '&'] = [' ', 'a', 'n', 'd', ' '] := rfl
  rw [chars_eq, List.append_assoc, k.first.normalFrom_chars (endsWord_behindEach _ _ _ hcs),
    normalFrom_behindEach rfl hand (fun c _ => c.normalFrom_chars) k.rest hcs, normalChars]
  simp

end Clause

namespace Condition

/-- The characters of a condition. -/
def chars (c : Condition) : List Char := c.parts.flatMap Part.chars

/-- The characters of a condition in normal form. -/
def normalChars (c : Condition) : List Char :=
  c.first.normalChars ++
    behindEach [' ', 'o', 'r', ' '] (fun k => k.first.lead ++ k.normalChars) c.rest

/-- A condition is written as its first clause, with `||` and a clause for each of the others. -/
theorem chars_eq (c : Condition) :
    c.chars = c.first.chars ++ behindEach ['|', '|'] Clause.chars c.rest := by
  simp [chars, parts, Clause.chars, List.flatMap_assoc, Part.chars, behindEach]

/-- The normal form of a condition: every `||` between its clauses becomes `or`.  What is left is
the blank that comes before a leading `not`. -/
theorem normalFrom_chars (c : Condition) :
    normalFrom c.chars = c.first.first.lead ++ c.normalChars := by
  have hor : spelled ['|', '|'] = [' ', 'o', 'r', ' '] := rfl
  have hnil : EndsWord [] := .inl rfl
  have hend : normalFrom [] = [] := normalFrom_of_plain rfl
  have hrest := normalFrom_behindEach rfl hor (fun k _ => k.normalFrom_chars) c.rest hnil
  rw [List.append_nil, hend, List.append_nil] at hrest
  have hends := endsWord_behindEach ['|', '|'] Clause.chars c.rest hnil
  rw [List.append_nil] at hends
  rw [chars_eq, c.first.normalFrom_chars hends, hrest, normalChars, List.append_assoc]

end Condition

/-! ### Blanks around a condition -/

/-- Texts whose last character is no blank. -/
def EndsInk (cs : List Char) : Prop := ∃ ds d, cs = ds ++ [d] ∧ Text.isBlank d = false

/-- What stands in front does not change how a text ends. -/
theorem EndsInk.append {ds : List Char} (h : EndsInk ds) (cs : List Char) : EndsInk (cs ++ ds) := by
  obtain ⟨es, d, rfl, hd⟩ := h
  exact ⟨cs ++ es, d, (List.append_assoc ..).symm, hd⟩

/-- A text with more of its kind behind it, each behind a connective, ends as its last part does. -/
theorem EndsInk.behindEach {α : Type} {chars : α → List Char} (h : ∀ a, EndsInk (chars a))
    (hcs : EndsInk cs) (connective : List Char) (as : List α) :
    EndsInk (cs ++ behindEach connective chars as) := by
  induction as generalizing cs with
  | nil =>
    rw [Expression.behindEach, List.flatMap_nil, List.append_nil]
    exact hcs
  | cons a as ih =>
    have hfirst := ((h a).append (' ' :: (connective ++ [' ']))).append cs
    have hsplit : cs ++ Expression.behindEach connective chars (a :: as) =
        (cs ++ (' ' :: (connective ++ [' ']) ++ chars a)) ++
          Expression.behindEach connective chars as := by
      simp [Expression.behindEach]
    rw [hsplit]
    exact ih hfirst

/-- Stripping takes off the blanks in front and nothing else, if the text behind them begins and
ends with no blank. -/
theorem strip_eq {lead : List Char} (hlead : ∀ b ∈ lead, Text.isBlank b = true) {c : Char}
    (hc : Text.isBlank c = false) (hcs : EndsInk (c :: cs)) :
    Text.strip (lead ++ c :: cs) = c :: cs := by
  obtain ⟨ds, d, heq, hd⟩ := hcs
  rw [Text.strip, Text.trim, List.dropWhile_append_of_pos hlead,
    List.dropWhile_cons_of_neg (by simp [hc]), Text.trimEnd, heq, List.reverse_concat,
    List.dropWhile_cons_of_neg (by simp [hd]), ← List.reverse_concat, List.reverse_reverse]

/-- A test ends with a quotation mark or a bracket. -/
theorem Test.endsInk (t : Test) : EndsInk t.chars := by
  cases t with
  | equals negated sign s =>
    refine ⟨' ' :: (operator negated sign ++ ' ' :: '\x27' :: s.chars.flatMap escaped), '\x27', ?_,
      rfl⟩
    simp [chars_equals, quotedChars]
  | isIn negated ss =>
    refine ⟨' ' :: (membership negated ++ ' ' :: '[' :: listedChars ss), ']', ?_, rfl⟩
    simp [chars_isIn]

/-- A check ends as its test does. -/
theorem Check.endsInk (c : Check) : EndsInk c.normalChars := by
  rw [normalChars, ← List.append_assoc]
  exact c.test.normal.endsInk.append _

/-- A check in normal form begins with `not` or the name of a variable. -/
theorem Check.exists_head (c : Check) :
    ∃ d ds, c.normalChars = d :: ds ∧ Text.isBlank d = false ∧ beginsToken d = true := by
  obtain ⟨negated, ⟨attr, qualified⟩, test⟩ := c
  cases negated with
  | true => exact ⟨'n', _, rfl, rfl, rfl⟩
  | false =>
    cases qualified with
    | true => exact ⟨'t', _, rfl, rfl, rfl⟩
    | false => cases attr <;> exact ⟨_, _, rfl, rfl, rfl⟩

namespace Condition

/-- The normal form of a condition begins with a character that is no blank and begins a token, so
no indentation is read in front of it. -/
theorem exists_head (c : Condition) :
    ∃ d ds, c.normalChars = d :: ds ∧ Text.isBlank d = false ∧ beginsToken d = true := by
  obtain ⟨d, ds, heq, hd⟩ := c.first.first.exists_head
  rw [normalChars, Clause.normalChars, heq]
  exact ⟨d, _, rfl, hd⟩

/-- The normal form of a condition ends as its last check does. -/
theorem endsInk (c : Condition) : EndsInk c.normalChars := by
  have hcheck (c : Check) : EndsInk (c.lead ++ c.normalChars) := c.endsInk.append _
  have hclause (k : Clause) : EndsInk k.normalChars :=
    EndsInk.behindEach hcheck k.first.endsInk _ _
  exact EndsInk.behindEach (fun k => (hclause k).append _) (hclause c.first) _ _

/-- **The normal form of a condition.** -/
theorem normalChars_chars (c : Condition) : Expression.normalChars c.chars = c.normalChars := by
  obtain ⟨d, ds, heq, hd, -⟩ := c.exists_head
  have hlead : ∀ b ∈ c.first.first.lead, Text.isBlank b = true := by
    rw [Check.lead]
    intro b hb
    cases hnegated : c.first.first.negated with
    | true =>
      rw [hnegated, if_pos rfl, List.mem_singleton] at hb
      rw [hb]
      rfl
    | false =>
      rw [hnegated] at hb
      cases hb
  have hends := c.endsInk
  rw [heq] at hends
  have hfrom := c.normalFrom_chars
  rw [normalFrom, heq] at hfrom
  rw [Expression.normalChars, hfrom, heq]
  exact strip_eq hlead hd hends

end Condition

/-! ### Characters of a condition -/

/-- Whether a text holds neither a carriage return nor a null character. -/
def isBare (cs : List Char) : Bool := cs.all fun c => c != '\r' && c != '\x00'

@[simp] theorem isBare_nil : isBare [] = true := rfl

@[simp] theorem isBare_cons (c : Char) (cs : List Char) :
    isBare (c :: cs) = ((c != '\r' && c != '\x00') && isBare cs) :=
  rfl

@[simp] theorem isBare_append (cs ds : List Char) :
    isBare (cs ++ ds) = (isBare cs && isBare ds) :=
  List.all_append

/-- Bare texts joined to one are bare. -/
theorem isBare_flatMap {α : Type} {chars : α → List Char} (h : ∀ a, isBare (chars a) = true)
    (as : List α) : isBare (as.flatMap chars) = true := by
  rw [isBare, List.all_flatMap, List.all_eq_true]
  exact fun a _ => h a

/-- Bare texts behind a bare connective are bare. -/
theorem isBare_behindEach {α : Type} {w : List Char} {chars : α → List Char}
    (hw : isBare w = true) (h : ∀ a, isBare (chars a) = true) (as : List α) :
    isBare (behindEach w chars as) = true :=
  isBare_flatMap (fun a => by simp [hw, h]) as

/-- A quoted literal is bare whatever it holds: carriage returns and null characters are escaped in
it. -/
@[simp] theorem isBare_quotedChars (s : List Char) : isBare (quotedChars s) = true := by
  have hescaped : isBare (s.flatMap escaped) = true :=
    List.all_eq_true.2 fun c hc => by simp [(mem_escaped hc).2]
  simp [quotedChars, hescaped]

/-- A list of literals is bare. -/
theorem isBare_listedChars (ss : List Text) : isBare (listedChars ss) = true := by
  cases ss with
  | nil => rfl
  | cons s ss =>
    have hmore : isBare (moreListedChars ss) = true := isBare_flatMap (fun s => by simp) ss
    simp [listedChars, hmore]

/-- A test is bare. -/
theorem Test.isBare_chars (t : Test) : isBare t.chars = true := by
  cases t with
  | equals negated sign s => cases negated <;> cases sign <;> simp [chars_equals, operator]
  | isIn negated ss =>
    cases negated <;> simp [chars_isIn, membership, isBare_listedChars]

/-- The name of an attribute is bare, with or without the prefix `trigger.`. -/
theorem Subject.isBare_chars (s : Subject) : isBare s.chars = true := by
  obtain ⟨attr, qualified⟩ := s
  cases attr <;> cases qualified <;> rfl

/-- A check in normal form is bare. -/
theorem Check.isBare_normalChars (c : Check) : isBare (c.lead ++ c.normalChars) = true := by
  obtain ⟨negated, s, test⟩ := c
  cases negated <;> simp [lead, normalChars, s.isBare_chars, Test.isBare_chars]

/-- A clause in normal form is bare. -/
theorem Clause.isBare_normalChars (k : Clause) :
    isBare (k.first.lead ++ k.normalChars) = true := by
  have hfirst := k.first.isBare_normalChars
  have hrest := isBare_behindEach (w := [' ', 'a', 'n', 'd', ' ']) rfl
    Check.isBare_normalChars k.rest
  rw [normalChars, ← List.append_assoc, isBare_append, hfirst, hrest]
  rfl

/-- A condition in normal form is bare, so that the reader of expressions takes it as it stands. -/
theorem Condition.isBare_normalChars (c : Condition) : isBare c.normalChars = true := by
  have hfirst := c.first.isBare_normalChars
  have hrest := isBare_behindEach (w := [' ', 'o', 'r', ' ']) rfl
    Clause.isBare_normalChars c.rest
  rw [isBare_append, Bool.and_eq_true] at hfirst
  rw [normalChars, isBare_append, hfirst.2, hrest]
  rfl

/-- Reading line ends alike leaves a text without carriage returns as it is. -/
theorem universalNewlines_eq {cs : List Char} (h : isBare cs = true) :
    Text.universalNewlines cs = cs := by
  refine Text.universalNewlines_of_notMem fun hmem => ?_
  have hbare := List.all_eq_true.1 h _ hmem
  cases hbare

/-- A bare text is not refused for a null character. -/
theorem contains_null {cs : List Char} (h : isBare cs = true) : cs.contains '\x00' = false := by
  rw [Bool.eq_false_iff, ne_eq, List.contains_iff_mem]
  intro hmem
  have hbare := List.all_eq_true.1 h _ hmem
  simp at hbare

end Expression
end WorkflowKit
