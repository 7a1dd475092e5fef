/-
# The normal form is stable

Bringing a text into normal form loses no literal, adds none and moves none, and doing it again
changes nothing (`normal_stable`).

* A quote begins a literal or none (`literals_induction`).  Whether it does depends on all that
  follows it, words and signs included, but not on how these are spelled: a spelling holds no quote,
  no backslash and no end of a line (`closesAlike_spelled`).
* No spelling can be spelled again.  A word that stands for another never comes out of one
  (`isSettled_respellWords`), not even next to the words that signs are written as
  (`isSettled_respellSigns`), and no two characters of a sign come to stand together that did not
  before (`head?_respellSigns`).
* A blank is part of no word and of no sign, so that trimming takes nothing away that would be
  spelled otherwise (`strip_normalFrom_strip`).

Expressions are strings here.  A `Text` with a lone half of a pair is left out: it is no string, and
no expression that could be read as a tree.
-/

import WorkflowKit.Proofs.Expression.Literals

namespace WorkflowKit
namespace Expression

variable {c q : Char} {w v run cs ds body rest : List Char}

/-! ### Literals -/

/-- The text of a segment that is a literal, with its quotes. -/
def Segment.quoted? : Segment → Option (List Char)
  | plain _ => none
  | literal cs => some cs

/-- The literals of a text, in order, each with its quotes. -/
def literals (cs : List Char) : List (List Char) := (segments [] cs).filterMap Segment.quoted?

/-- Whether a quote `q` before the text has its counterpart in it; `escaped` right behind a
backslash. -/
def closes (q : Char) (escaped : Bool) : List Char → Bool
  | [] => false
  | c :: cs =>
    if escaped then c != '\n' && closes q false cs else c == q || closes q (c == '\\') cs

/-- A quote has a counterpart exactly if the end of a literal is found behind it.  Unlike
`closing?`, which returns the literal's body, `closes` goes on one character at a time, so that it
can be followed through a change of the text. -/
theorem closes_eq (hq : isQuote q = true) (cs : List Char) :
    closes q false cs = (closing? q cs).isSome := by
  have hbackslash : ('\\' == q) = false := beq_false_of_ne (ne_of_isQuote hq rfl).symm
  fun_induction closing? q cs with
  | case1 => rfl
  | case2 | case4 => simp [closes]
  | case3 c hc => simp [closes, hc]
  | case5 cs _ => simp [closes, hbackslash]
  | case6 d cs hd _ ih => simp [closes, hbackslash, hd, ih]
  | case7 c d cs hc hback ih =>
    have hstep : closes q false (c :: d :: cs) = closes q false (d :: cs) := by
      rw [closes, if_neg Bool.false_ne_true, beq_false_of_ne hc, beq_false_of_ne hback,
        Bool.false_or]
    rw [hstep, ih, Option.isSome_map]

/-- **Every text** is plain, or a plain text before a literal, or before a quote without a
counterpart. -/
theorem literals_induction {P : List Char → Prop} (plain : ∀ w, isPlain w = true → P w)
    (literal : ∀ w q body rest, isPlain w = true → isQuote q = true → IsBody q body → P rest →
      P (w ++ q :: (body ++ q :: rest)))
    (stray : ∀ w q rest, isPlain w = true → isQuote q = true → closes q false rest = false →
      P rest → P (w ++ q :: rest))
    (cs : List Char) : P cs := by
  induction hlen : cs.length using Nat.strong_induction_on generalizing cs with
  | _ len ih =>
    subst hlen
    obtain hplain | ⟨w, q, ds, rfl, hw, hq⟩ := exists_plain cs
    · exact plain cs hplain
    · cases hclosing : closing? q ds with
      | some n =>
        obtain ⟨body, rest, rfl, -, hbody⟩ := exists_body_of_closing? hclosing
        exact literal w q body rest hw hq hbody (ih rest.length (by simp; omega) rest rfl)
      | none =>
        refine stray w q ds hw hq ?_ (ih ds.length (by simp; omega) ds rfl)
        rw [closes_eq hq, hclosing]
        rfl

/-- A quote without a counterpart begins no literal. -/
theorem literal?_of_closes (hq : isQuote q = true) (h : closes q false cs = false) :
    literal? q cs = none := by
  rw [closes_eq hq, Option.isSome_eq_false_iff, Option.isNone_iff_eq_none] at h
  rw [literal?, if_pos hq, h]

/-- A text without quotes holds no literals. -/
theorem literals_of_plain (hw : isPlain w = true) : literals w = [] := by
  rw [literals, segments_of_plain hw]
  rfl

/-- A literal behind a plain text is the first of the literals, and what follows it holds the
others. -/
theorem literals_body (hw : isPlain w = true) (hq : isQuote q = true) (hbody : IsBody q body) :
    literals (w ++ q :: (body ++ q :: rest)) = (q :: (body ++ [q])) :: literals rest := by
  rw [literals, segments_body hw hq hbody]
  rfl

/-- Characters in front of a text are part of no literal of it. -/
theorem filterMap_segments (before cs : List Char) :
    (segments before cs).filterMap Segment.quoted? = literals cs := by
  obtain ⟨p, ss, hss⟩ := exists_segments cs
  rw [literals, hss, hss]
  rfl

/-- A plain text in front adds no literal. -/
theorem literals_plain (hw : isPlain w = true) (cs : List Char) :
    literals (w ++ cs) = literals cs := by
  rw [literals, segments_plain [] hw, filterMap_segments]

/-- A quote without a counterpart adds no literal, neither by itself nor with the plain text before
it. -/
theorem literals_stray (hw : isPlain w = true) (hq : isQuote q = true)
    (h : closes q false rest = false) : literals (w ++ q :: rest) = literals rest := by
  rw [literals_plain hw, literals, segments, literal?_of_closes hq h]
  exact filterMap_segments [q] rest

/-- Words and signs end at a quote. -/
theorem partsSpelling_of_isQuote (hq : isQuote q = true) : partsSpelling q = true := by
  rw [isQuote, Bool.or_eq_true, beq_iff_eq, beq_iff_eq] at hq
  rcases hq with rfl | rfl <;> decide

/-- A quote without a counterpart stays where it is. -/
theorem normalFrom_stray (hw : isPlain w = true) (hq : isQuote q = true)
    (h : closes q false rest = false) :
    normalFrom (w ++ q :: rest) = spelled w ++ q :: normalFrom rest :=
  normalFrom_parted hw (partsSpelling_of_isQuote hq) (literal?_of_closes hq h)

/-! ### What a quote finds -/

/-- Two texts with a counterpart for the same quotes. -/
def ClosesAlike (cs ds : List Char) : Prop :=
  ∀ q, isQuote q = true → ∀ escaped, closes q escaped cs = closes q escaped ds

/-- The same character in front of both changes nothing, also where it is a quote or a backslash
itself. -/
theorem ClosesAlike.cons (h : ClosesAlike cs ds) (c : Char) : ClosesAlike (c :: cs) (c :: ds) := by
  intro q hq escaped
  rw [closes, closes, h q hq, h q hq]

/-- Nor does the same text in front of both. -/
theorem ClosesAlike.append (h : ClosesAlike cs ds) (w : List Char) :
    ClosesAlike (w ++ cs) (w ++ ds) := by
  induction w with
  | nil => exact h
  | cons c w ih => exact ih.cons c

/-- A character that neither ends a literal nor keeps one from ending. -/
def isIdle (c : Char) : Bool := !isQuote c && c != '\\' && c != '\n'

/-- An idle text lets a quote look past it, and undoes an escape that stands before it. -/
theorem closes_idle (hq : isQuote q = true) (hw : w ≠ []) (hidle : w.all isIdle = true)
    (escaped : Bool) (cs : List Char) : closes q escaped (w ++ cs) = closes q false cs := by
  induction w generalizing escaped with
  | nil => exact absurd rfl hw
  | cons c w ih =>
    simp only [List.all_cons, Bool.and_eq_true] at hidle
    obtain ⟨hc, hidle⟩ := hidle
    have hstep : closes q escaped (c :: (w ++ cs)) = closes q false (w ++ cs) := by
      simp only [isIdle, Bool.and_eq_true, Bool.not_eq_true', bne_iff_ne] at hc
      have hcq : c ≠ q := by
        rintro rfl
        rw [hq] at hc
        cases hc.1.1
      have hback : (c == '\\') = false := beq_eq_false_iff_ne.2 hc.1.2
      cases escaped <;> simp [closes, hcq, hback, hc.2]
    rw [List.cons_append, hstep]
    cases w with
    | nil => rfl
    | cons d w => exact ih (List.cons_ne_nil _ _) hidle false

/-- Different idle texts may stand in front, as long as neither is empty: right behind a backslash
an empty one would let the next character be escaped. -/
theorem ClosesAlike.idle (h : ClosesAlike cs ds) (hw : w ≠ []) (hv : v ≠ [])
    (hwidle : w.all isIdle = true) (hvidle : v.all isIdle = true) :
    ClosesAlike (w ++ cs) (v ++ ds) := by
  intro q hq escaped
  rw [closes_idle hq hw hwidle, closes_idle hq hv hvidle, h q hq]

/-- A word may be spelled anew, for words and their spellings are idle. -/
theorem ClosesAlike.respell (h : ClosesAlike cs ds) (v : List Char) :
    ClosesAlike (v ++ cs) (respell v ++ ds) := by
  have hspellings : ∀ e ∈ wordSpellings,
      e.1 ≠ [] ∧ e.2 ≠ [] ∧ e.1.all isIdle = true ∧ e.2.all isIdle = true := by
    decide
  obtain hv | ⟨e, he, rfl, hv⟩ := respell_cases v
  · rw [hv]
    exact h.append v
  · obtain ⟨hne, hne', hidle, hidle'⟩ := hspellings e he
    rw [hv]
    exact h.idle hne hne' hidle hidle'

/-- So may the words of a text, of which the first may have begun with `run`. -/
theorem ClosesAlike.respellWords (h : ClosesAlike cs ds) (run w : List Char) :
    ClosesAlike (run.reverse ++ (w ++ cs)) (Expression.respellWords run w ++ ds) := by
  induction w generalizing run with
  | nil => exact h.respell run.reverse
  | cons c w ih =>
    rw [Expression.respellWords]
    split
    · have hrun := ih (c :: run)
      rwa [List.reverse_cons, List.append_assoc] at hrun
    · rw [List.append_assoc, List.cons_append]
      exact ((ih []).cons c).respell run.reverse

/-- The word that a sign stands for closes nothing that the sign does not. -/
theorem ClosesAlike.sign {u : List Char} (h : ClosesAlike cs ds)
    (hu : u ∈ [['&', '&'], ['|', '|'], ['!']])
    (hv : v ∈ [['a', 'n', 'd'], ['o', 'r'], ['n', 'o', 't']]) :
    ClosesAlike (u ++ cs) (' ' :: (v ++ [' ']) ++ ds) := by
  have hsigns : ∀ u ∈ [['&', '&'], ['|', '|'], ['!']], u ≠ [] ∧ u.all isIdle = true := by decide
  have hwords : ∀ v ∈ [['a', 'n', 'd'], ['o', 'r'], ['n', 'o', 't']],
      (' ' :: (v ++ [' '])).all isIdle = true := by
    decide
  exact h.idle (hsigns u hu).1 (List.cons_ne_nil _ _) (hsigns u hu).2 (hwords v hv)

/-- So may the signs of a text. -/
theorem ClosesAlike.respellSigns (h : ClosesAlike cs ds) (w : List Char) :
    ClosesAlike (w ++ cs) (Expression.respellSigns w ++ ds) := by
  fun_induction Expression.respellSigns w with
  | case1 => exact h
  | case2 w ih =>
    rw [List.append_assoc]
    exact ih.sign (u := ['&', '&']) (v := ['a', 'n', 'd']) (by simp) (by simp)
  | case3 w ih =>
    rw [List.append_assoc]
    exact ih.sign (u := ['|', '|']) (v := ['o', 'r']) (by simp) (by simp)
  | case4 => exact h.sign (u := ['!']) (v := ['n', 'o', 't']) (by simp) (by simp)
  | case5 w ih => exact (ih.cons '=').cons '!'
  | case6 c w hc ih =>
    rw [List.append_assoc]
    exact ih.sign (u := ['!']) (v := ['n', 'o', 't']) (by simp) (by simp)
  | case7 c w _ _ _ _ _ ih => exact ih.cons c

/-- A quote has a counterpart however words and signs are spelled. -/
theorem closesAlike_spelled (h : ClosesAlike cs ds) (w : List Char) :
    ClosesAlike (w ++ cs) (spelled w ++ ds) := by
  have hwords : ClosesAlike (w ++ cs) (respellWords [] w ++ cs) :=
    ClosesAlike.respellWords (fun _ _ _ => rfl) [] w
  intro q hq escaped
  rw [hwords q hq, h.respellSigns (respellWords [] w) q hq]
  rfl

/-- **The normal form has the same quotes open.** A quote before a text finds its counterpart in it
exactly if it finds it in the normal form: literals are kept, a quote without a counterpart still
has none, and spellings hold none. -/
theorem closesAlike_normalFrom (cs : List Char) : ClosesAlike cs (normalFrom cs) := by
  induction cs using literals_induction with
  | plain w hw =>
    have h : ClosesAlike (w ++ []) (spelled w ++ []) := closesAlike_spelled (fun _ _ _ => rfl) w
    rwa [List.append_nil, List.append_nil, ← normalFrom_of_plain hw] at h
  | literal w q body rest hw hq hbody ih =>
    rw [normalFrom_body hw hq hbody]
    exact closesAlike_spelled (((ih.cons q).append body).cons q) w
  | stray w q rest hw hq h ih =>
    rw [normalFrom_stray hw hq h]
    exact closesAlike_spelled (ih.cons q) w

/-- A quote without a counterpart has none in the normal form. -/
theorem closes_normalFrom (hq : isQuote q = true) (h : closes q false rest = false) :
    closes q false (normalFrom rest) = false := by
  rwa [← closesAlike_normalFrom rest q hq]

/-- The normal form has the literals of the text. -/
theorem literals_normalFrom (cs : List Char) : literals (normalFrom cs) = literals cs := by
  induction cs using literals_induction with
  | plain w hw =>
    rw [normalFrom_of_plain hw, literals_of_plain (isPlain_spelled hw), literals_of_plain hw]
  | literal w q body rest hw hq hbody ih =>
    rw [normalFrom_body hw hq hbody, literals_body (isPlain_spelled hw) hq hbody,
      literals_body hw hq hbody, ih]
  | stray w q rest hw hq h ih =>
    rw [normalFrom_stray hw hq h, literals_stray (isPlain_spelled hw) hq (closes_normalFrom hq h),
      literals_stray hw hq h, ih]

/-! ### What has been spelled -/

/-- Whether no word of a text has another spelling; `run` holds the characters of a word before it,
the last one first. -/
def isSettled (run : List Char) : List Char → Bool
  | [] => respell run.reverse == run.reverse
  | c :: cs =>
    if Text.isWord c then isSettled (c :: run) cs
    else respell run.reverse == run.reverse && isSettled [] cs

/-- A settled text is left as it is when its words are spelled. -/
theorem respellWords_of_isSettled (h : isSettled run w = true) :
    respellWords run w = run.reverse ++ w := by
  induction w generalizing run with
  | nil =>
    rw [isSettled, beq_iff_eq] at h
    rw [respellWords, h, List.append_nil]
  | cons c w ih =>
    rw [isSettled] at h
    rw [respellWords]
    split at h
    · next hc => rw [if_pos hc, ih h, List.reverse_cons, List.append_assoc, List.singleton_append]
    · next hc =>
      rw [Bool.and_eq_true, beq_iff_eq] at h
      rw [if_neg hc, h.1, ih h.2]
      rfl

/-- A character that is part of no word parts the question in two. -/
theorem isSettled_parted (hc : Text.isWord c = false) (run a b : List Char) :
    isSettled run (a ++ c :: b) = (isSettled run a && isSettled [] b) := by
  induction a generalizing run with
  | nil => simp [isSettled, hc]
  | cons d a ih =>
    rw [List.cons_append, isSettled, isSettled]
    split
    · exact ih _
    · rw [ih, Bool.and_assoc]

/-- A word with `run` before it is settled exactly if the whole word is spelled as it stands. -/
theorem isSettled_word (hv : v.all Text.isWord = true) :
    isSettled run v = (respell (run.reverse ++ v) == run.reverse ++ v) := by
  induction v generalizing run with
  | nil => rw [isSettled, List.append_nil]
  | cons c v ih =>
    simp only [List.all_cons, Bool.and_eq_true] at hv
    rw [isSettled, if_pos hv.1, ih hv.2, List.reverse_cons, List.append_assoc,
      List.singleton_append]

/-- The spelling of a word has no other spelling. -/
theorem isSettled_respell (hv : v.all Text.isWord = true) : isSettled [] (respell v) = true := by
  have hspellings : ∀ e ∈ wordSpellings, isSettled [] e.2 = true := by decide
  obtain h | ⟨e, he, -, h⟩ := respell_cases v
  · rw [h, isSettled_word hv, List.reverse_nil, List.nil_append, h, beq_self_eq_true]
  · rw [h]
    exact hspellings e he

/-- The words of a text are settled once they are spelled. -/
theorem isSettled_respellWords (hrun : run.all Text.isWord = true) (w : List Char) :
    isSettled [] (respellWords run w) = true := by
  induction w generalizing run with
  | nil => exact isSettled_respell (by rwa [List.all_reverse])
  | cons c w ih =>
    rw [respellWords]
    split
    · next hc => exact ih (by rw [List.all_cons, hc, hrun]; rfl)
    · next hc =>
      rw [Bool.not_eq_true] at hc
      rw [isSettled_parted hc, isSettled_respell (by rwa [List.all_reverse]), ih rfl]
      rfl

/-- Signs are settled, and part what stands around them. -/
theorem isSettled_signs {u : List Char} (hne : u ≠ [])
    (hu : u.all (fun c => !Text.isWord c) = true) (run cs : List Char) :
    isSettled run (u ++ cs) = (respell run.reverse == run.reverse && isSettled [] cs) := by
  induction u generalizing run with
  | nil => exact absurd rfl hne
  | cons c u ih =>
    simp only [List.all_cons, Bool.and_eq_true, Bool.not_eq_true'] at hu
    rw [List.cons_append, isSettled, hu.1, if_neg Bool.false_ne_true]
    cases u with
    | nil => rfl
    | cons d u =>
      rw [ih (List.cons_ne_nil _ _) hu.2]
      rfl

/-- So are the words that signs are written as. -/
theorem isSettled_sign (hv : v ∈ [['a', 'n', 'd'], ['o', 'r'], ['n', 'o', 't']])
    (run cs : List Char) :
    isSettled run (' ' :: (v ++ [' ']) ++ cs) =
      (respell run.reverse == run.reverse && isSettled [] cs) := by
  have hwords : ∀ v ∈ [['a', 'n', 'd'], ['o', 'r'], ['n', 'o', 't']],
      v.all Text.isWord = true ∧ (respell v == v) = true := by
    decide
  have hblank : Text.isWord ' ' = false := by decide
  have hsplit : v ++ [' '] ++ cs = v ++ ' ' :: cs := by simp
  obtain ⟨hword, hsettled⟩ := hwords v hv
  rw [List.cons_append, isSettled, hblank, if_neg Bool.false_ne_true, hsplit,
    isSettled_parted hblank, isSettled_word hword, List.reverse_nil, List.nil_append, hsettled,
    Bool.true_and]

/-- Spelling signs unsettles no word, for a sign is written as a word between blanks, or kept. -/
theorem isSettled_respellSigns (h : isSettled run w = true) :
    isSettled run (respellSigns w) = true := by
  -- Where a sign is written as a word, what follows it has to be settled on its own.
  have hsign {u v w w' : List Char} (hu : u ∈ [['&', '&'], ['|', '|'], ['!']])
      (hv : v ∈ [['a', 'n', 'd'], ['o', 'r'], ['n', 'o', 't']])
      (ih : isSettled [] w = true → isSettled [] w' = true) {run : List Char}
      (h : isSettled run (u ++ w) = true) : isSettled run (' ' :: (v ++ [' ']) ++ w') = true := by
    have hsigns : ∀ u ∈ [['&', '&'], ['|', '|'], ['!']],
        u ≠ [] ∧ u.all (fun c => !Text.isWord c) = true := by
      decide
    rw [isSettled_signs (hsigns u hu).1 (hsigns u hu).2, Bool.and_eq_true] at h
    rw [isSettled_sign hv, h.1, ih h.2]
    rfl
  fun_induction respellSigns w generalizing run with
  | case1 => exact h
  | case2 w ih => exact hsign (u := ['&', '&']) (v := ['a', 'n', 'd']) (by simp) (by simp) ih h
  | case3 w ih => exact hsign (u := ['|', '|']) (v := ['o', 'r']) (by simp) (by simp) ih h
  | case4 => exact hsign (u := ['!']) (v := ['n', 'o', 't']) (w := []) (by simp) (by simp) id h
  | case5 w ih =>
    have hbang (w : List Char) : isSettled run ('!' :: '=' :: w) =
        (respell run.reverse == run.reverse && isSettled [] w) :=
      isSettled_signs (u := ['!', '=']) (by simp) (by decide) run w
    rw [hbang, Bool.and_eq_true] at h
    rw [hbang, h.1, ih h.2]
    rfl
  | case6 c w hc ih => exact hsign (u := ['!']) (v := ['n', 'o', 't']) (by simp) (by simp) ih h
  | case7 c w _ _ _ _ _ ih =>
    rw [isSettled] at h ⊢
    split at h
    · next hc => rw [if_pos hc, ih h]
    · next hc =>
      rw [Bool.and_eq_true] at h
      rw [if_neg hc, h.1, ih h.2]
      rfl

/-- No sign begins with a character that it did not begin with before. -/
theorem head?_respellSigns (hc : c = '&' ∨ c = '|') (h : (respellSigns w).head? = some c) :
    w.head? = some c := by
  have hblank : c ≠ ' ' := by rcases hc with rfl | rfl <;> decide
  fun_cases respellSigns w with
  | case1 => exact h
  | case2 | case3 | case4 =>
    cases h
    exact absurd rfl hblank
  | case6 d w hd =>
    rw [respellSigns] at h
    · cases h
      exact absurd rfl hblank
    · exact hd
  | case5 => exact h
  | case7 d w h₁ h₂ h₃ h₄ h₅ =>
    rw [respellSigns] at h
    · exact h
    · exact h₁
    · exact h₂
    · exact h₃
    · exact h₄
    · exact h₅

/-- Signs that are spelled are spelled for good. -/
theorem respellSigns_respellSigns (w : List Char) :
    respellSigns (respellSigns w) = respellSigns w := by
  fun_induction respellSigns w with
  | case1 => rfl
  | case2 w ih | case3 w ih | case6 c w hc ih => simp [respellSigns, ih]
  | case4 => decide
  | case5 w ih => rw [respellSigns, ih]
  | case7 c w h₁ h₂ h₃ h₄ h₅ ih =>
    have hbang : c ≠ '!' := by
      rintro rfl
      cases w with
      | nil => exact h₃ rfl rfl
      | cons d w => exact h₅ d w rfl rfl
    -- The character behind a single `&` or `|` is another one in the normal form too.
    have hpair (hc : c = '&' ∨ c = '|') {ds : List Char} (h : respellSigns w = c :: ds) :
        ∃ es, w = c :: es :=
      List.head?_eq_some_iff.1 (head?_respellSigns hc (h ▸ rfl))
    rw [respellSigns, ih]
    · rintro ds rfl h
      obtain ⟨es, rfl⟩ := hpair (.inl rfl) h
      exact h₁ es rfl rfl
    · rintro ds rfl h
      obtain ⟨es, rfl⟩ := hpair (.inr rfl) h
      exact h₂ es rfl rfl
    · exact fun h _ => hbang h
    · exact fun _ h _ => hbang h
    · exact fun _ _ h _ => hbang h

/-- No spelling is spelled again. -/
theorem spelled_spelled (w : List Char) : spelled (spelled w) = spelled w := by
  have hsettled : isSettled [] (spelled w) = true :=
    isSettled_respellSigns (isSettled_respellWords rfl w)
  calc spelled (spelled w) = respellSigns (spelled w) :=
        congrArg respellSigns (respellWords_of_isSettled hsettled)
    _ = spelled w := respellSigns_respellSigns _

/-- The normal form of a normal form is the same, before blanks are trimmed. -/
theorem normalFrom_normalFrom (cs : List Char) : normalFrom (normalFrom cs) = normalFrom cs := by
  induction cs using literals_induction with
  | plain w hw =>
    rw [normalFrom_of_plain hw, normalFrom_of_plain (isPlain_spelled hw), spelled_spelled]
  | literal w q body rest hw hq hbody ih =>
    rw [normalFrom_body hw hq hbody, normalFrom_body (isPlain_spelled hw) hq hbody,
      spelled_spelled, ih]
  | stray w q rest hw hq h ih =>
    rw [normalFrom_stray hw hq h,
      normalFrom_stray (isPlain_spelled hw) hq (closes_normalFrom hq h), spelled_spelled, ih]

/-! ### Surrounding blanks -/

/-- A blank is part of no word and of no sign. -/
theorem partsSpelling_of_isBlank (hc : Text.isBlank c = true) : partsSpelling c = true := by
  by_cases hascii : c.toNat < 0x80
  · have hall : ∀ n < 0x80, Text.isBlank (Char.ofNat n) = true →
        partsSpelling (Char.ofNat n) = true := by
      decide
    have h := hall c.toNat hascii
    rw [Char.ofNat_toNat] at h
    exact h hc
  · have hne {d : Char} (hd : d.toNat < 0x80) : c ≠ d := by
      rintro rfl
      exact hascii hd
    rw [partsSpelling, Text.isWord, if_neg hascii, hc]
    simp [hne]

/-- Blanks in front of a text are no part of its spellings. -/
theorem spelled_blanks_append (hw : ∀ c ∈ w, Text.isBlank c = true) (cs : List Char) :
    spelled (w ++ cs) = w ++ spelled cs := by
  induction w with
  | nil => rfl
  | cons c w ih =>
    obtain ⟨hc, hw⟩ := List.forall_mem_cons.1 hw
    have hparted : spelled (c :: (w ++ cs)) = c :: spelled (w ++ cs) :=
      spelled_parted (partsSpelling_of_isBlank hc) [] (w ++ cs)
    rw [List.cons_append, hparted, ih hw, List.cons_append]

/-- Blanks behind a text are no part of its spellings. -/
theorem spelled_append_blanks (hw : ∀ c ∈ w, Text.isBlank c = true) (cs : List Char) :
    spelled (cs ++ w) = spelled cs ++ w := by
  cases w with
  | nil => rw [List.append_nil, List.append_nil]
  | cons c w =>
    obtain ⟨hc, hw⟩ := List.forall_mem_cons.1 hw
    have hblanks : spelled w = w := by
      have h := spelled_blanks_append hw []
      rwa [List.append_nil, show spelled [] = [] from rfl, List.append_nil] at h
    rw [spelled_parted (partsSpelling_of_isBlank hc), hblanks]

/-- A text without quotes closes nothing. -/
theorem closes_append_plain (hq : isQuote q = true) (hw : isPlain w = true) (escaped : Bool)
    (cs : List Char) : closes q escaped (cs ++ w) = closes q escaped cs := by
  induction cs generalizing escaped with
  | nil =>
    rw [List.nil_append, closes]
    induction w generalizing escaped with
    | nil => rfl
    | cons c w ih =>
      obtain ⟨hc, hw⟩ : isQuote c = false ∧ isPlain w = true := by simpa [isPlain] using hw
      have hcq : (c == q) = false := by
        rw [beq_eq_false_iff_ne]
        rintro rfl
        rw [hq] at hc
        cases hc
      cases escaped <;> simp [closes, hcq, ih hw]
  | cons c cs ih => rw [List.cons_append, closes, closes, ih, ih]

/-- Blanks in front of a text stay in front of its normal form. -/
theorem normalFrom_blanks_append (hw : ∀ c ∈ w, Text.isBlank c = true) (cs : List Char) :
    normalFrom (w ++ cs) = w ++ normalFrom cs := by
  obtain ⟨p, ss, hss⟩ := exists_segments cs
  rw [normalFrom, segments_plain [] (isPlain_of_isBlank hw), normalFrom, hss, hss]
  simp [spelled_blanks_append hw]

/-- Blanks behind a text stay behind its normal form, even where the text ends in a quote without a
counterpart. -/
theorem normalFrom_append_blanks (hw : ∀ c ∈ w, Text.isBlank c = true) (cs : List Char) :
    normalFrom (cs ++ w) = normalFrom cs ++ w := by
  have hblanks := isPlain_of_isBlank hw
  induction cs using literals_induction with
  | plain v hv =>
    have happend : isPlain (v ++ w) = true := by
      rw [isPlain, List.all_append, Bool.and_eq_true]
      exact ⟨hv, hblanks⟩
    rw [normalFrom_of_plain happend, normalFrom_of_plain hv, spelled_append_blanks hw]
  | literal v q body rest hv hq hbody ih =>
    have hsplit : v ++ q :: (body ++ q :: rest) ++ w = v ++ q :: (body ++ q :: (rest ++ w)) := by
      simp
    rw [hsplit, normalFrom_body hv hq hbody, normalFrom_body hv hq hbody, ih]
    simp
  | stray v q rest hv hq h ih =>
    have hclose : closes q false (rest ++ w) = false := by rwa [closes_append_plain hq hblanks]
    have hsplit : v ++ q :: rest ++ w = v ++ q :: (rest ++ w) := by simp
    rw [hsplit, normalFrom_stray hv hq hclose, normalFrom_stray hv hq h, ih]
    simp

/-- A plain text behind adds no literal and closes none. -/
theorem literals_append_plain (hw : isPlain w = true) (cs : List Char) :
    literals (cs ++ w) = literals cs := by
  induction cs using literals_induction with
  | plain v hv => rw [literals_plain hv, literals_of_plain hw, literals_of_plain hv]
  | literal v q body rest hv hq hbody ih =>
    have hsplit : v ++ q :: (body ++ q :: rest) ++ w = v ++ q :: (body ++ q :: (rest ++ w)) := by
      simp
    rw [hsplit, literals_body hv hq hbody, literals_body hv hq hbody, ih]
  | stray v q rest hv hq h ih =>
    have hclose : closes q false (rest ++ w) = false := by rwa [closes_append_plain hq hw]
    have hsplit : v ++ q :: rest ++ w = v ++ q :: (rest ++ w) := by simp
    rw [hsplit, literals_stray hv hq hclose, literals_stray hv hq h, ih]

/-- Trimming a text takes nothing away that would be spelled otherwise. -/
theorem strip_normalFrom_strip (cs : List Char) :
    Text.strip (normalFrom (Text.strip cs)) = Text.strip (normalFrom cs) := by
  obtain ⟨lead, trail, hlead, htrail, heq⟩ := Text.exists_eq_strip cs
  conv_rhs => rw [heq, List.append_assoc, normalFrom_blanks_append hlead,
    normalFrom_append_blanks htrail, Text.strip_surrounded hlead htrail]

/-- Trimming a text takes no literal away. -/
theorem literals_strip (cs : List Char) : literals (Text.strip cs) = literals cs := by
  obtain ⟨lead, trail, hlead, htrail, heq⟩ := Text.exists_eq_strip cs
  conv_rhs => rw [heq, List.append_assoc, literals_plain (isPlain_of_isBlank hlead),
    literals_append_plain (isPlain_of_isBlank htrail)]

/-! ### The normal form -/

/-- The normal form holds the literals of the text, in number, order and content. -/
theorem literals_normalChars (cs : List Char) : literals (normalChars cs) = literals cs :=
  calc literals (normalChars cs) = literals (normalFrom cs) := literals_strip _
    _ = literals cs := literals_normalFrom cs

/-- A text in normal form is its own normal form. -/
theorem normalChars_normalChars (cs : List Char) : normalChars (normalChars cs) = normalChars cs :=
  calc normalChars (normalChars cs) = Text.strip (normalFrom (normalFrom cs)) :=
        strip_normalFrom_strip _
    _ = normalChars cs := congrArg Text.strip (normalFrom_normalFrom cs)

/-- **The normal form is stable.** It has the literals of the expression, as many, in the same order
and with the same characters, and it is its own normal form: spelling words and signs opens no
literal, closes none, and leaves nothing to be spelled. -/
theorem normal_stable (s : String) :
    literals (normal s).toList = literals s.toList ∧ normal (normal s) = normal s := by
  have hchars (s : String) : (normal s).toList = normalChars s.toList := String.toList_ofList
  refine ⟨by rw [hchars, literals_normalChars], ?_⟩
  rw [normal, hchars, normalChars_normalChars, normal]

/-- A quote without a counterpart, before signs and a literal that holds a word. -/
example : normalChars "it's !\"a eq b\"".toList = "it's  not \"a eq b\"".toList ∧
    literals "it's !\"a eq b\"".toList = ["\"a eq b\"".toList] := by
  cbv

end Expression
end WorkflowKit
