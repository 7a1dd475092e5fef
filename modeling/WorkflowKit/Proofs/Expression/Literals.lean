/-
# Which texts between quotes are kept

Literals are never respelled, but not every text between quotes is a literal, and not every literal
is one.  They are the same (`keepsLiterals`) unless

* a text between quotes goes on behind the end of a line, or stands between three quotes and holds
  another one of them;
* a comment holds a quote without its counterpart.

Then the normal form of an expression has the text constants of the expression
(`texts_normalChars`); without, a word may be respelled inside a text
(`not_forall_texts_normalChars`).  Cutting the text into its literals (`Cut`) shows this: each of
them is found again in the normal form, in the same place among the others (`Cut.scan_normalFrom`).
-/

import Mathlib
import WorkflowKit.Proofs.Expression.Constants
import WorkflowKit.Proofs.Expression.Quotation
import WorkflowKit.Proofs.Expression.Spelling

namespace WorkflowKit
namespace Expression

open Text (universalNewlines)

variable {s : Lead} {c q : Char} {w v cs body rest : List Char} {n : Nat}

/-! ### Literals -/

/-- A literal ends behind a body. -/
theorem exists_body_of_closing? (h : closing? q cs = some n) :
    ∃ body rest, cs = body ++ q :: rest ∧ n = body.length + 1 ∧ IsBody q body := by
  fun_induction closing? q cs generalizing n with
  | case1 | case3 | case5 => cases h
  | case2 =>
    cases h
    exact ⟨[], [], rfl, rfl, .nil⟩
  | case4 d cs =>
    cases h
    exact ⟨[], d :: cs, rfl, rfl, .nil⟩
  | case6 d cs hd hq ih =>
    obtain ⟨m, hm, rfl⟩ := Option.map_eq_some_iff.1 h
    obtain ⟨body, rest, rfl, rfl, hbody⟩ := ih hm
    exact ⟨'\\' :: d :: body, rest, rfl, rfl, .escape hd hbody⟩
  | case7 c d cs hq hc ih =>
    obtain ⟨m, hm, rfl⟩ := Option.map_eq_some_iff.1 h
    obtain ⟨body, rest, heq, rfl, hbody⟩ := ih hm
    exact ⟨c :: body, rest, by rw [heq]; rfl, rfl, .char hq hc hbody⟩

/-- What stands before the first end of a literal is its body. -/
theorem isBody_of_closing? (h : closing? q (body ++ [q]) = some (body.length + 1)) :
    IsBody q body := by
  obtain ⟨body', rest, heq, hlength, hbody⟩ := exists_body_of_closing? h
  rwa [(List.append_inj heq (Nat.add_right_cancel hlength)).1]

/-- A body does not depend on how lines end. -/
theorem IsBody.of_universalNewlines (h : IsBody q (universalNewlines body))
    (hq : isQuote q = true) : IsBody q body := by
  have hreturn : '\r' ≠ q := by rintro rfl; cases hq
  generalize hcs : universalNewlines body = cs at h
  induction h generalizing body with
  | nil =>
    fun_cases universalNewlines body with
    | case1 => exact .nil
    | case2 => cases hcs
    | case3 _ _ hds =>
      rw [universalNewlines] at hcs
      · cases hcs
      · exact hds
  | char quote backslash _ ih =>
    obtain ⟨ds, rfl, hds⟩ | ⟨rfl, ds, rfl | rfl, hds⟩ := Text.universalNewlines_eq_cons hcs
    · exact .char quote backslash (ih hds)
    · exact .char hreturn (by decide) (ih hds)
    · exact .char hreturn (by decide) (.char quote (by decide) (ih hds))
  | escape lineFeed _ ih =>
    obtain ⟨ds, rfl, hds⟩ | ⟨h, -⟩ := Text.universalNewlines_eq_cons hcs
    · obtain ⟨es, rfl, hes⟩ | ⟨rfl, -⟩ := Text.universalNewlines_eq_cons hds
      · exact .escape lineFeed (ih hes)
      · exact absurd rfl lineFeed
    · cases h

/-- What is read up to a quote is read so whatever follows. -/
theorem untilQuote?_eq_some (h : untilQuote? q cs = some (body, rest)) :
    cs = body ++ q :: rest ∧
      ∀ rest', untilQuote? q (body ++ q :: rest') = some (body, rest') := by
  fun_induction untilQuote? q cs generalizing body with
  | case1 | case3 | case5 => cases h
  | case2 | case4 =>
    cases h
    exact ⟨rfl, fun rest' => by cases rest' <;> simp [untilQuote?]⟩
  | case6 d cs hq hn ih =>
    obtain ⟨⟨b, r⟩, hb, h⟩ := Option.map_eq_some_iff.1 h
    cases h
    obtain ⟨rfl, hreads⟩ := ih hb
    refine ⟨rfl, fun rest' => ?_⟩
    rw [List.cons_append, List.cons_append, untilQuote?, if_neg hq, if_neg hn, if_pos rfl, hreads]
    rfl
  | case7 c d cs hq hn hc ih =>
    obtain ⟨⟨b, r⟩, hb, h⟩ := Option.map_eq_some_iff.1 h
    cases h
    obtain ⟨heq, hreads⟩ := ih hb
    refine ⟨by rw [heq]; rfl, fun rest' => ?_⟩
    rw [List.cons_append, untilQuote?_cons hq hn hc, hreads]
    rfl

/-- What is read up to three quotes is read so whatever follows. -/
theorem untilThreeQuotes?_eq_some (h : untilThreeQuotes? q cs = some (body, rest)) (hq : q ≠ '\\') :
    cs = body ++ q :: q :: q :: rest ∧
      ∀ rest', untilThreeQuotes? q (body ++ q :: q :: q :: rest') = some (body, rest') := by
  fun_induction untilThreeQuotes? q cs generalizing body with
  | case1 d cs ih =>
    obtain ⟨⟨b, r⟩, hb, h⟩ := Option.map_eq_some_iff.1 h
    cases h
    obtain ⟨rfl, hreads⟩ := ih hb
    refine ⟨rfl, fun rest' => ?_⟩
    rw [List.cons_append, List.cons_append, untilThreeQuotes?, if_pos rfl, hreads]
    rfl
  | case2 c d cs hc hthree =>
    cases h
    obtain ⟨rfl, rfl, hhead⟩ := hthree
    obtain ⟨cs, rfl⟩ := List.head?_eq_some_iff.1 hhead
    refine ⟨rfl, fun rest' => ?_⟩
    rw [List.nil_append, untilThreeQuotes?, if_neg hq, if_pos ⟨rfl, rfl, rfl⟩]
    rfl
  | case3 c d cs hc hthree ih =>
    obtain ⟨⟨b, r⟩, hb, h⟩ := Option.map_eq_some_iff.1 h
    cases h
    obtain ⟨heq, hreads⟩ := ih hb
    refine ⟨by rw [heq]; rfl, fun rest' => ?_⟩
    -- The next two characters are the same whatever follows the three quotes.
    obtain ⟨ds, hds, hhead⟩ : ∃ ds, b ++ q :: q :: q :: rest' = d :: ds ∧ ds.head? = cs.head? := by
      cases b with
      | nil =>
        cases heq
        exact ⟨_, rfl, rfl⟩
      | cons x b =>
        obtain ⟨rfl, rfl⟩ := List.cons.inj heq
        exact ⟨_, rfl, by cases b <;> rfl⟩
    have hread := hreads rest'
    rw [hds] at hread
    rw [List.cons_append, hds, untilThreeQuotes?, if_neg hc, if_neg (by rwa [hhead]), hread]
    rfl
  | case4 => cases h

/-- Without two quotes more, one quote is the counterpart. -/
theorem afterQuote?_of_take (h : cs.take 2 ≠ [q, q]) : afterQuote? q cs = untilQuote? q cs := by
  unfold afterQuote?
  split
  · rw [if_neg]
    rintro ⟨rfl, rfl⟩
    exact h rfl
  · rfl

/-- What is read up to one quote is read so whatever follows, unless it is three quotes. -/
theorem afterQuote?_append_quote (h : untilQuote? q cs = some (body, rest)) {rest' : List Char}
    (hrest : body = [] → rest'.head? ≠ some q) :
    afterQuote? q (body ++ q :: rest') = some (body, rest') :=
  afterQuote?_of_untilQuote? ((untilQuote?_eq_some h).2 rest') (Decidable.not_or_of_imp hrest)

/-- A text stands between two quotes, or between three and three. -/
theorem afterQuote?_cases (h : afterQuote? q cs = some (body, rest)) :
    untilQuote? q cs = some (body, rest) ∧ (body = [] → rest.head? ≠ some q) ∨
      ∃ ds, cs = q :: q :: ds ∧ untilThreeQuotes? q ds = some (body, rest) := by
  by_cases htake : cs.take 2 = [q, q]
  · obtain ⟨ds, rfl⟩ : ∃ ds, cs = q :: q :: ds :=
      ⟨cs.drop 2, by rw [← List.take_append_drop 2 cs, htake]; simp⟩
    rw [afterQuote?, if_pos ⟨rfl, rfl⟩] at h
    exact .inr ⟨ds, rfl, h⟩
  · rw [afterQuote?_of_take htake] at h
    refine .inl ⟨h, ?_⟩
    rintro rfl hhead
    obtain ⟨ds, rfl⟩ := List.head?_eq_some_iff.1 hhead
    rw [(untilQuote?_eq_some h).1] at htake
    exact htake rfl

/-! ### Literals in the normal form -/

/-- Whether the literals of a text are its texts between quotes.  The first argument counts the
characters that belong to the literal before, the second one says whether the text is part of a
comment. -/
def keepsLiterals : Nat → Bool → List Char → Bool
  | _, _, [] => true
  | skip + 1, comment, _ :: cs => keepsLiterals skip comment cs
  | 0, comment, c :: cs =>
    if isQuote c then
      if comment then
        match closing? c cs with
        | some n => !(cs.take n).contains '\n' && keepsLiterals n true cs
        | none => false
      else
        match afterQuote? c cs with
        | some (body, rest) =>
          closing? c (body ++ [c]) == some (body.length + 1) &&
            keepsLiterals (cs.length - rest.length) false cs
        | none => false
    else keepsLiterals 0 (if comment then c != '\n' else c == '#') cs

/-- A comment begins at its sign, and ends with its line. -/
theorem Lead.comment_next (s : Lead) (c : Char) :
    (s.next c).comment = if s.comment then c != '\n' else c == '#' := by
  unfold Lead.next
  split
  · rfl
  · split
    · next hblank =>
      have hsharp : c ≠ '#' := by
        rintro rfl
        cases hblank
      simp [hsharp]
    · split
      · next hsharp => simp [hsharp]
      · next hsharp => split <;> simpa using hsharp

/-- The characters of a literal are passed over. -/
theorem keepsLiterals_skip (comment : Bool) (w cs : List Char) :
    keepsLiterals w.length comment (w ++ cs) = keepsLiterals 0 comment cs := by
  induction w with
  | nil => cases cs <;> rfl
  | cons c w ih => exact ih

/-- A plain text is passed over, and counts by whether it ends inside a comment. -/
theorem keepsLiterals_plain (hw : isPlain w = true) (s : Lead) :
    keepsLiterals 0 s.comment (w ++ cs) = keepsLiterals 0 (w.foldl Lead.next s).comment cs := by
  induction w generalizing s with
  | nil => rfl
  | cons c w ih =>
    obtain ⟨hc, hw⟩ : isQuote c = false ∧ isPlain w = true := by simpa [isPlain] using hw
    rw [List.cons_append, keepsLiterals, if_neg (by simp [hc]), ← s.comment_next, ih hw,
      List.foldl_cons]

/-- A text without quotes, and a literal behind it. -/
theorem exists_plain (cs : List Char) : isPlain cs = true ∨
    ∃ w q ds, cs = w ++ q :: ds ∧ isPlain w = true ∧ isQuote q = true := by
  induction cs with
  | nil => exact .inl rfl
  | cons c cs ih =>
    by_cases hc : isQuote c = true
    · exact .inr ⟨[], c, cs, rfl, rfl, hc⟩
    · rw [Bool.not_eq_true] at hc
      rcases ih with hcs | ⟨w, q, ds, rfl, hw, hq⟩
      · exact .inl (by simpa [isPlain, hc] using hcs)
      · exact .inr ⟨c :: w, q, ds, rfl, by simpa [isPlain, hc] using hw, hq⟩

/-- A plain text holds no texts between quotes. -/
theorem scan_isPlain (hw : isPlain w = true) (s : Lead) : scan 0 s w = [] := by
  have hscan : scan 0 s (w ++ []) = scan 0 (w.foldl Lead.next s) [] := scan_plain hw
  rw [List.append_nil] at hscan
  rw [hscan, scan]

/-- Part of a comment. -/
theorem scan_remark (hs : s.comment = true) (hne : w ≠ []) (hw : '\n' ∉ w) (cs : List Char) :
    scan 0 s (w ++ cs) = scan 0 ⟨true, [], s.parted⟩ cs := by
  induction w generalizing s with
  | nil => exact absurd rfl hne
  | cons c w ih =>
    rw [List.mem_cons, not_or] at hw
    rw [List.cons_append, scan_next (by simp [hs]), Lead.next_comment hs (Ne.symm hw.1)]
    cases w with
    | nil => rfl
    | cons d w => exact ih rfl (List.cons_ne_nil _ _) hw.2

/-- A quote differs from what is none. -/
theorem ne_of_isQuote (hq : isQuote q = true) (hc : isQuote c = false) : q ≠ c := by
  rintro rfl
  rw [hq] at hc
  cases hc

/-- Reading line ends alike goes on separately before and behind a quote. -/
theorem universalNewlines_quote (hq : isQuote q = true) (x y : List Char) :
    universalNewlines (x ++ q :: y) = universalNewlines x ++ q :: universalNewlines y := by
  have hne : (q :: y).head? ≠ some '\n' := fun h => ne_of_isQuote hq rfl (Option.some.inj h)
  rw [Text.universalNewlines_append hne, Text.universalNewlines_cons (ne_of_isQuote hq rfl)]

/-- Reading line ends alike adds no quotes. -/
theorem isPlain_universalNewlines (hw : isPlain w = true) :
    isPlain (universalNewlines w) = true := by
  rw [isPlain, List.all_eq_true] at hw ⊢
  intro c hc
  obtain ⟨a, b, hsplit⟩ := List.append_of_mem hc
  by_cases hfeed : c = '\n'
  · rw [hfeed]
    rfl
  · obtain ⟨a₀, b₀, rfl, -, -⟩ := Text.exists_of_universalNewlines hfeed hsplit
    exact hw c (by simp)

/-- A normal form begins with a quote only if the text does. -/
theorem head?_normalFrom (hq : isQuote q = true) (h : (normalFrom cs).head? = some q) :
    cs.head? = some q := by
  have hparts : partsSpelling q = true ∧ q ∉ spellingChars := by
    rw [isQuote, Bool.or_eq_true, beq_iff_eq, beq_iff_eq] at hq
    rcases hq with rfl | rfl <;> decide
  cases cs with
  | nil =>
    rw [normalFrom, segments] at h
    cases h
  | cons c cs =>
    cases hc : literal? c cs with
    | some n =>
      rw [normalFrom, segments, hc] at h
      exact h
    | none =>
      obtain ⟨p, ss, hss⟩ := exists_segments cs
      obtain ⟨d, ds, hds⟩ := List.exists_cons_of_ne_nil (spelled_ne_nil (List.cons_ne_nil c p))
      have hspelled : (spelled (c :: p)).head? = some q := by
        rw [normalFrom, segments, hc] at h
        dsimp only at h
        rw [hss, List.flatMap_cons, List.reverse_singleton, List.singleton_append, normal_plain,
          hds] at h
        rw [hds]
        exact h
      have hhead : (c :: p).head? = some q := head?_spelled hparts.1 hparts.2 hspelled
      exact hhead

/-- A quote comes first exactly if it did before line ends were read alike. -/
theorem head?_universalNewlines (hq : isQuote q = true) :
    (universalNewlines cs).head? = some q ↔ cs.head? = some q := by
  constructor
  · intro h
    obtain ⟨ds, hds⟩ := List.head?_eq_some_iff.1 h
    obtain ⟨es, rfl, -⟩ | ⟨hfeed, -⟩ := Text.universalNewlines_eq_cons hds
    · rfl
    · exact absurd hfeed (ne_of_isQuote hq rfl)
  · intro h
    obtain ⟨ds, rfl⟩ := List.head?_eq_some_iff.1 h
    rw [Text.universalNewlines_cons (ne_of_isQuote hq rfl)]
    rfl

/-- A text between three quotes and three, whose body is that of a literal. -/
theorem normalFrom_three (hw : isPlain w = true) (hq : isQuote q = true) (hbody : IsBody q body) :
    normalFrom (w ++ q :: q :: q :: (body ++ q :: q :: q :: rest)) =
      spelled w ++ q :: q :: q :: (body ++ q :: q :: q :: normalFrom rest) := by
  have hempty (x : List Char) (ds : List Char) (hx : isPlain x = true) :
      normalFrom (x ++ q :: q :: ds) = spelled x ++ q :: q :: normalFrom ds :=
    normalFrom_body hx hq .nil
  have hinner : normalFrom ([] ++ q :: (body ++ q :: q :: q :: rest)) =
      [] ++ q :: (body ++ q :: normalFrom (q :: q :: rest)) := normalFrom_body rfl hq hbody
  have hlast := hempty [] rest rfl
  rw [List.nil_append] at hinner hlast
  rw [hempty w _ hw, hinner, hlast]
  rfl

/-- A quote that comes first when line ends are read alike comes first in the text. -/
theorem exists_of_universalNewlines_quote (hq : isQuote q = true)
    (h : universalNewlines cs = q :: v) : ∃ ds, cs = q :: ds ∧ universalNewlines ds = v := by
  obtain ⟨ds, rfl, hds⟩ | ⟨hfeed, -⟩ := Text.universalNewlines_eq_cons h
  · exact ⟨ds, rfl, hds⟩
  · exact absurd hfeed (ne_of_isQuote hq rfl)

/-- A literal in a comment. -/
theorem scan_commented (hs : s.comment = true) (hq : isQuote q = true) (hbody : '\n' ∉ body)
    (cs : List Char) :
    scan 0 s (q :: (body ++ q :: cs)) = scan 0 ⟨true, [], s.parted⟩ cs := by
  have hfeed := ne_of_isQuote hq (c := '\n') rfl
  have hremark := scan_remark (w := q :: (body ++ [q])) hs (List.cons_ne_nil _ _)
    (by simp [hbody, hfeed.symm]) cs
  simpa using hremark

/-- A text that is cut into literals and what stands between them, where literals are texts between
quotes: the first argument is what leads to the text.  Lines may end in any way. -/
inductive Cut : Lead → List Char → Prop
  /-- No quote. -/
  | plain {s : Lead} {w : List Char} (plain : isPlain w = true) : Cut s w
  /-- A literal in a comment. -/
  | commented {s s₁ : Lead} {w body rest : List Char} {q : Char} (plain : isPlain w = true)
    (quote : isQuote q = true) (lead : (universalNewlines w).foldl Lead.next s = s₁)
    (comment : s₁.comment = true) (isBody : IsBody q body) (line : '\n' ∉ universalNewlines body)
    (more : Cut ⟨true, [], s₁.parted⟩ rest) : Cut s (w ++ q :: (body ++ q :: rest))
  /-- A text between two quotes. -/
  | quoted {s s₁ : Lead} {w body rest : List Char} {q : Char} (plain : isPlain w = true)
    (quote : isQuote q = true) (lead : (universalNewlines w).foldl Lead.next s = s₁)
    (comment : s₁.comment = false) (isBody : IsBody q body)
    (reads : untilQuote? q (universalNewlines (body ++ q :: rest)) =
      some (universalNewlines body, universalNewlines rest))
    (single : universalNewlines body = [] → rest.head? ≠ some q)
    (more : Cut (.fresh false) rest) : Cut s (w ++ q :: (body ++ q :: rest))
  /-- A text between three quotes and three. -/
  | three {s s₁ : Lead} {w body rest : List Char} {q : Char} (plain : isPlain w = true)
    (quote : isQuote q = true) (lead : (universalNewlines w).foldl Lead.next s = s₁)
    (comment : s₁.comment = false) (isBody : IsBody q body)
    (reads : untilThreeQuotes? q (universalNewlines (body ++ q :: q :: q :: rest)) =
      some (universalNewlines body, universalNewlines rest))
    (more : Cut (.fresh false) rest) :
    Cut s (w ++ q :: q :: q :: (body ++ q :: q :: q :: rest))

/-- What is left behind the characters of a literal. -/
theorem keepsLiterals_behind {comment : Bool} (hcs : cs = w ++ rest) (hn : n = w.length)
    (h : keepsLiterals n comment cs = true) : keepsLiterals 0 comment rest = true := by
  rwa [hcs, hn, keepsLiterals_skip] at h

/-- A text between three quotes and three, however its lines end. -/
theorem exists_three (hq : isQuote q = true) (hcs : universalNewlines cs = q :: q :: v)
    (h : untilThreeQuotes? q v = some (body, rest)) :
    ∃ b r, cs = q :: q :: (b ++ q :: q :: q :: r) ∧ body = universalNewlines b ∧
      rest = universalNewlines r ∧ universalNewlines (b ++ q :: q :: q :: r) = v := by
  obtain ⟨rfl, -⟩ := untilThreeQuotes?_eq_some h (ne_of_isQuote hq rfl)
  obtain ⟨d₁, rfl, hd₁⟩ := exists_of_universalNewlines_quote hq hcs
  obtain ⟨d₂, rfl, hd₂⟩ := exists_of_universalNewlines_quote hq hd₁
  obtain ⟨b, d₃, rfl, rfl, hd₃⟩ := Text.exists_of_universalNewlines (ne_of_isQuote hq rfl) hd₂
  obtain ⟨d₄, rfl, hd₄⟩ := exists_of_universalNewlines_quote hq hd₃
  obtain ⟨r, rfl, rfl⟩ := exists_of_universalNewlines_quote hq hd₄
  exact ⟨b, r, rfl, rfl, rfl, hd₂⟩

/-- A text whose literals are its texts between quotes is cut into them. -/
theorem cut_of_keepsLiterals {s : Lead} {cs : List Char}
    (h : keepsLiterals 0 s.comment (universalNewlines cs) = true) : Cut s cs := by
  -- The induction is on the length, since a literal and what stands before it are cut off at once.
  induction hlen : cs.length using Nat.strong_induction_on generalizing s cs with
  | _ len ih =>
    subst hlen
    obtain hplain | ⟨w, q, ds, rfl, hw, hq⟩ := exists_plain cs
    · exact .plain hplain
    rw [universalNewlines_quote hq, keepsLiterals_plain (isPlain_universalNewlines hw),
      keepsLiterals, if_pos hq] at h
    generalize hlead : (universalNewlines w).foldl Lead.next s = s₁ at h
    split at h
    -- Inside a comment the literal has to be closed before the line ends.
    · next hcomment =>
      split at h
      · next n hn =>
        obtain ⟨body, rest, hds, rfl, hbody⟩ := exists_body_of_closing? hn
        obtain ⟨b, r, rfl, rfl, rfl⟩ :=
          Text.exists_of_universalNewlines (ne_of_isQuote hq rfl) hds
        rw [Bool.and_eq_true] at h
        -- The text goes on inside the comment, so the literal holds no line end.
        have hline : '\n' ∉ universalNewlines b := by
          intro hmem
          have htake : (universalNewlines b).take ((universalNewlines b).length + 1) =
              universalNewlines b := List.take_of_length_le (Nat.le_succ _)
          rw [hds, List.take_append, htake] at h
          simp [hmem] at h
        have hrest := keepsLiterals_behind (w := universalNewlines b ++ [q]) (by simpa using hds)
          (by simp) h.2
        exact .commented hw hq hlead hcomment (hbody.of_universalNewlines hq) hline
          (ih r.length (by simp; omega) hrest rfl)
      · cases h
    -- Outside of comments the literal is a text between quotes, one on each side or three.
    · next hcomment =>
      rw [Bool.not_eq_true] at hcomment
      split at h
      · next body rest hafter =>
        rw [Bool.and_eq_true, beq_iff_eq] at h
        have hbody := isBody_of_closing? h.1
        obtain ⟨huntil, hsingle⟩ | ⟨es, hes, huntil⟩ := afterQuote?_cases hafter
        · obtain ⟨hsplit, -⟩ := untilQuote?_eq_some huntil
          obtain ⟨b, r, rfl, rfl, rfl⟩ :=
            Text.exists_of_universalNewlines (ne_of_isQuote hq rfl) hsplit
          have hrest := keepsLiterals_behind (w := universalNewlines b ++ [q])
            (by simpa using hsplit) (by simp [hsplit]; omega) h.2
          exact .quoted hw hq hlead hcomment (hbody.of_universalNewlines hq) huntil
            (fun hb hhead => hsingle hb ((head?_universalNewlines hq).2 hhead))
            (ih r.length (by simp; omega) hrest rfl)
        · obtain ⟨hsplit, -⟩ := untilThreeQuotes?_eq_some huntil (ne_of_isQuote hq rfl)
          obtain ⟨b, r, rfl, rfl, rfl, rfl⟩ := exists_three hq hes huntil
          rw [hsplit] at hes
          have hrest := keepsLiterals_behind (w := q :: q :: (universalNewlines b ++ [q, q, q]))
            (by simpa using hes) (by simp [hes]; omega) h.2
          exact .three hw hq hlead hcomment (hbody.of_universalNewlines hq) huntil
            (ih r.length (by simp; omega) hrest rfl)
      · cases h

/-- What is read between the quotes of a normal form, up to a literal. -/
theorem scan_spelled (hw : isPlain w = true) (hq : isQuote q = true) (s : Lead) (x : List Char) :
    scan 0 s (universalNewlines (spelled w ++ q :: x)) =
      scan 0 ((spelled (universalNewlines w)).foldl Lead.next s) (q :: universalNewlines x) := by
  rw [universalNewlines_quote hq, universalNewlines_spelled,
    scan_plain (isPlain_spelled (isPlain_universalNewlines hw))]

/-- **The normal form has the texts between quotes of the text**, if these are its literals. -/
theorem Cut.scan_normalFrom (h : Cut s cs) :
    scan 0 s (universalNewlines (normalFrom cs)) = scan 0 s (universalNewlines cs) := by
  induction h with
  | @plain s w plain =>
    have hplain := isPlain_universalNewlines plain
    rw [normalFrom_of_plain plain, universalNewlines_spelled, scan_isPlain hplain,
      scan_isPlain (isPlain_spelled hplain)]
  | @commented s s₁ w body rest q plain quote lead comment isBody line _ ih =>
    have hlevel := Lead.level_spelled s (universalNewlines w)
    rw [lead] at hlevel
    -- In a comment the two places are not only level but equal, so the scan goes on from the same
    -- one.
    have hlead := hlevel.eq_of_comment comment
    rw [normalFrom_body plain quote isBody, scan_spelled plain quote, universalNewlines_quote quote,
      universalNewlines_quote quote w, scan_plain (isPlain_universalNewlines plain), lead, ← hlead,
      universalNewlines_quote quote, scan_commented comment quote line,
      scan_commented comment quote line, ih]
  | @quoted s s₁ w body rest q plain quote lead comment isBody reads single _ ih =>
    have hlevel := Lead.level_spelled s (universalNewlines w)
    rw [lead] at hlevel
    -- The normal form of the rest begins with a quote only if the rest does, so that no third quote
    -- comes to stand behind two.
    have hsingle {x : List Char} (hx : x.head? = some q → rest.head? = some q) :
        universalNewlines body = [] → (universalNewlines x).head? ≠ some q :=
      fun hb hhead => single hb (hx ((head?_universalNewlines quote).1 hhead))
    have hafter := afterQuote?_append_quote reads (hsingle id)
    have hafter' := afterQuote?_append_quote reads (hsingle (head?_normalFrom quote))
    rw [normalFrom_body plain quote isBody, scan_spelled plain quote, universalNewlines_quote quote,
      universalNewlines_quote quote w, scan_plain (isPlain_universalNewlines plain), lead,
      universalNewlines_quote quote, scan_quote quote comment hafter,
      scan_quote quote (hlevel.comment_eq ▸ comment) hafter', hlevel.quote_eq, ih]
  | @three s s₁ w body rest q plain quote lead comment isBody reads _ ih =>
    have hlevel := Lead.level_spelled s (universalNewlines w)
    rw [lead] at hlevel
    have hreturn : q ≠ '\r' := ne_of_isQuote quote rfl
    have hlines (x : List Char) : universalNewlines (body ++ q :: q :: q :: x) =
        universalNewlines body ++ q :: q :: q :: universalNewlines x := by
      rw [universalNewlines_quote quote, Text.universalNewlines_cons hreturn,
        Text.universalNewlines_cons hreturn]
    have hafter (x : List Char) : afterQuote? q
        (universalNewlines (q :: q :: (body ++ q :: q :: q :: x))) =
          some (universalNewlines body, universalNewlines x) := by
      rw [Text.universalNewlines_cons hreturn, Text.universalNewlines_cons hreturn, afterQuote?,
        if_pos ⟨rfl, rfl⟩, hlines]
      exact (untilThreeQuotes?_eq_some reads (ne_of_isQuote quote rfl)).2 _
    rw [normalFrom_three plain quote isBody, scan_spelled plain quote,
      universalNewlines_quote quote w, scan_plain (isPlain_universalNewlines plain), lead,
      scan_quote quote comment (hafter rest),
      scan_quote quote (hlevel.comment_eq ▸ comment) (hafter _), hlevel.quote_eq, ih]

/-! ### Surrounding blanks -/

/-- No blank is a quote. -/
theorem isQuote_of_isBlank (hc : Text.isBlank c = true) : isQuote c = false := by
  rw [Bool.eq_false_iff]
  intro hq
  rw [isQuote, Bool.or_eq_true, beq_iff_eq, beq_iff_eq] at hq
  rcases hq with rfl | rfl <;> cases hc

/-- Blanks are a plain text. -/
theorem isPlain_of_isBlank (hw : ∀ c ∈ w, Text.isBlank c = true) : isPlain w = true :=
  List.all_eq_true.2 fun c hc => by rw [isQuote_of_isBlank (hw c hc)]; rfl

/-- Blanks stay blanks when line ends are read alike. -/
theorem isBlank_universalNewlines (hw : ∀ c ∈ w, Text.isBlank c = true) :
    ∀ c ∈ universalNewlines w, Text.isBlank c = true := by
  intro c hc
  obtain ⟨a, b, hsplit⟩ := List.append_of_mem hc
  by_cases hfeed : c = '\n'
  · rw [hfeed]
    rfl
  · obtain ⟨a₀, b₀, rfl, -, -⟩ := Text.exists_of_universalNewlines hfeed hsplit
    exact hw c (by simp)

/-- Blanks at the start make no difference to what is found between quotes. -/
theorem scan_blanks (hw : ∀ c ∈ w, Text.isBlank c = true) (parted : Bool) :
    scan 0 (.fresh parted) (w ++ cs) = scan 0 (.fresh parted) cs := by
  induction w with
  | nil => rfl
  | cons c w ih =>
    obtain ⟨hc, hw⟩ := List.forall_mem_cons.1 hw
    rw [List.cons_append, scan_blank (by simp [hc]), ih hw]

/-- A quote before a text without quotes. -/
theorem exists_of_append_plain {x : List Char} (hw : isPlain w = true) (hq : isQuote q = true)
    (h : cs ++ w = x ++ q :: rest) : ∃ ds, cs = x ++ q :: ds ∧ rest = ds ++ w := by
  have hmem : q ∉ w := by
    intro hmem
    have hplain := List.all_eq_true.1 hw q hmem
    rw [hq] at hplain
    cases hplain
  obtain ⟨ds, -, rfl⟩ | ⟨ds, rfl, hds⟩ := List.append_eq_append_iff.1 h
  · simp at hmem
  · cases ds with
    | nil =>
      rw [List.nil_append] at hds
      simp [← hds] at hmem
    | cons d ds =>
      obtain ⟨rfl, rfl⟩ := List.cons.inj hds
      exact ⟨ds, rfl, rfl⟩

/-- What stands between quotes does not depend on what follows without quotes. -/
theorem afterQuote?_append (hq : isQuote q = true) (hw : isPlain w = true) (cs : List Char) :
    afterQuote? q (cs ++ w) = (afterQuote? q cs).map fun p => (p.1, p.2 ++ w) := by
  have hhead : w.head? ≠ some q := by
    intro hhead
    obtain ⟨ds, rfl⟩ := List.head?_eq_some_iff.1 hhead
    simp [isPlain, hq] at hw
  cases h : afterQuote? q cs with
  | some p =>
    obtain ⟨body, rest⟩ := p
    obtain ⟨huntil, hthree⟩ | ⟨ds, rfl, huntil⟩ := afterQuote?_cases h
    · have hrest : body = [] → (rest ++ w).head? ≠ some q := by
        intro hbody
        cases rest with
        | nil => exact hhead
        | cons => exact hthree hbody
      rw [(untilQuote?_eq_some huntil).1, List.append_assoc, List.cons_append,
        afterQuote?_append_quote huntil hrest]
      rfl
    · obtain ⟨rfl, hreads⟩ := untilThreeQuotes?_eq_some huntil (ne_of_isQuote hq rfl)
      have hread := hreads (rest ++ w)
      simp only [List.cons_append, List.append_assoc]
      rw [afterQuote?, if_pos ⟨rfl, rfl⟩, hread]
      rfl
  -- What is found in the longer text has its last quote in the shorter one, for the rest holds
  -- none: so it would be found there.
  | none =>
    rw [Option.map_none, Option.eq_none_iff_forall_ne_some]
    rintro ⟨body, rest⟩ h'
    obtain ⟨huntil, hthree⟩ | ⟨es, hes, huntil⟩ := afterQuote?_cases h'
    · obtain ⟨ds, rfl, rfl⟩ := exists_of_append_plain hw hq (untilQuote?_eq_some huntil).1
      have hrest : body = [] → ds.head? ≠ some q := by
        intro hbody hds
        obtain ⟨es, rfl⟩ := List.head?_eq_some_iff.1 hds
        exact hthree hbody rfl
      rw [afterQuote?_append_quote huntil hrest] at h
      cases h
    · obtain ⟨rfl, hreads⟩ := untilThreeQuotes?_eq_some huntil (ne_of_isQuote hq rfl)
      obtain ⟨ds, rfl, rfl⟩ := exists_of_append_plain (x := q :: q :: (body ++ [q, q])) hw hq
        (by simpa using hes)
      have hread := hreads ds
      simp only [List.cons_append, List.append_assoc, List.nil_append] at h
      rw [afterQuote?, if_pos ⟨rfl, rfl⟩, hread] at h
      cases h

/-- A text without quotes adds no texts between quotes. -/
theorem scan_append_plain (hw : isPlain w = true) (cs : List Char) (s : Lead) :
    scan 0 s (cs ++ w) = scan 0 s cs := by
  induction hlen : cs.length using Nat.strong_induction_on generalizing cs s with
  | _ len ih =>
    subst hlen
    cases cs with
    | nil => exact scan_isPlain hw s
    | cons c cs =>
      rw [List.cons_append]
      by_cases hquote : (isQuote c && !s.comment) = true
      · obtain ⟨hc, hs⟩ : isQuote c = true ∧ s.comment = false := by simpa using hquote
        have happend := afterQuote?_append hc hw cs
        cases hafter : afterQuote? c cs with
        | none =>
          rw [hafter] at happend
          rw [scan_unclosed hc hs happend, scan_unclosed hc hs hafter]
        | some p =>
          rw [hafter] at happend
          rw [scan_quote hc hs happend, scan_quote hc hs hafter]
          refine congrArg _ (ih p.2.length ?_ p.2 _ rfl)
          exact Nat.lt_succ_of_le (afterQuote?_suffix hafter).length_le
      · rw [Bool.not_eq_true] at hquote
        rw [scan_next hquote, scan_next hquote]
        exact ih cs.length (Nat.lt_succ_self _) cs _ rfl

/-- Surrounding blanks make no difference. -/
theorem scan_strip (cs : List Char) (parted : Bool) :
    scan 0 (.fresh parted) (universalNewlines (Text.strip cs)) =
      scan 0 (.fresh parted) (universalNewlines cs) := by
  obtain ⟨lead, trail, hlead, htrail, heq⟩ := Text.exists_eq_strip cs
  have hplain {w : List Char} (hw : ∀ c ∈ w, Text.isBlank c = true) :
      isPlain (universalNewlines w) = true :=
    isPlain_universalNewlines (isPlain_of_isBlank hw)
  by_cases hfeed : (Text.strip cs ++ trail).head? = some '\n'
  · -- A text that trimming leaves begins with no blank, so nothing is left.
    cases hstrip : Text.strip cs with
    | nil =>
      have hall : ∀ c ∈ cs, Text.isBlank c = true := by
        intro c hc
        rw [heq, hstrip, List.append_nil] at hc
        exact (List.mem_append.1 hc).elim (hlead c) (htrail c)
      rw [scan_isPlain (hplain hall)]
      rfl
    | cons c ds =>
      rw [hstrip] at hfeed
      cases hfeed
      have hhead : (Text.strip cs).head? = some '\n' := by rw [hstrip]; rfl
      cases Text.isBlank_of_head?_strip hhead
  · obtain ⟨z, hz, hsplit⟩ := Text.exists_universalNewlines_append (Text.strip cs) trail
    have hz : ∀ c ∈ z, Text.isBlank c = true := by
      rcases hz with rfl | rfl
      · exact htrail
      · exact fun c hc => htrail c (List.mem_cons_of_mem _ hc)
    calc scan 0 (.fresh parted) (universalNewlines (Text.strip cs))
        = scan 0 (.fresh parted) (universalNewlines (Text.strip cs) ++ universalNewlines z) :=
          (scan_append_plain (hplain hz) _ _).symm
      _ = scan 0 (.fresh parted) (universalNewlines lead ++
            (universalNewlines (Text.strip cs) ++ universalNewlines z)) :=
          (scan_blanks (isBlank_universalNewlines hlead) parted).symm
      _ = scan 0 (.fresh parted) (universalNewlines cs) := by
          rw [← hsplit, ← Text.universalNewlines_append hfeed, ← List.append_assoc, ← heq]

/-- **Texts are kept.** If the literals of an expression are its texts between quotes, as the reader
of tokens finds them, then the tree of its normal form holds the same text constants, in the same
order: no word and no sign inside a literal has been spelled anew. -/
theorem texts_normalChars {e e' : Expr} (h : tree? cs = some e)
    (h' : tree? (normalChars cs) = some e')
    (hcs : keepsLiterals 0 false (universalNewlines cs) = true) : e'.texts = e.texts := by
  obtain ⟨ts, hts, hwrites⟩ := exists_writes h
  obtain ⟨ts', hts', hwrites'⟩ := exists_writes h'
  have hquotes : quotesOf true ts' = quotesOf true ts :=
    calc quotesOf true ts' = scan 0 (.fresh true) (universalNewlines (normalChars cs)) :=
          quotesOf_tokens? hts'
      _ = scan 0 (.fresh true) (universalNewlines (normalFrom cs)) := scan_strip _ _
      _ = scan 0 (.fresh true) (universalNewlines cs) :=
          (cut_of_keepsLiterals (s := .fresh true) hcs).scan_normalFrom
      _ = quotesOf true ts := (quotesOf_tokens? hts).symm
  have hsaid := hwrites'.said
  rw [hquotes] at hsaid
  exact hsaid.unique hwrites.said

/-- A literal with a word, and a comment with another one. -/
def remarkChars : List Char := "'eq'#ne".toList

/-- The literal alone is read, and the comment is not. -/
theorem tree?_remarkChars : tree? remarkChars = some (.constant (.text ↑"eq")) := by
  cbv

/-- In the normal form the comment has changed, and the literal has not. -/
theorem tree?_normalChars_remarkChars :
    tree? (normalChars remarkChars) = some (.constant (.text ↑"eq")) := by
  cbv

/-- A word inside a literal stays, though one behind it, in a comment, is spelled anew. -/
theorem texts_normalChars_remark :
    tree? remarkChars = some (.constant (.text ↑"eq")) ∧
      tree? (normalChars remarkChars) = some (.constant (.text ↑"eq")) ∧
      keepsLiterals 0 false (universalNewlines remarkChars) = true ∧
      (Expr.constant (.text ↑"eq")).texts = (Expr.constant (.text ↑"eq")).texts :=
  have hkeeps : keepsLiterals 0 false (universalNewlines remarkChars) = true := by decide
  ⟨tree?_remarkChars, tree?_normalChars_remarkChars, hkeeps,
    texts_normalChars tree?_remarkChars tree?_normalChars_remarkChars hkeeps⟩

/-- A text between quotes that goes on behind the end of a line: it is no literal. -/
def continuedChars : List Char := "'\\\neq'".toList

/-- Not every text between quotes is kept: one that goes on behind the end of a line is no literal,
so that the word in it is spelled anew. -/
theorem not_forall_texts_normalChars :
    ¬ ∀ (cs : List Char) (e e' : Expr), tree? cs = some e → tree? (normalChars cs) = some e' →
      e'.texts = e.texts := by
  intro h
  have htree : tree? continuedChars = some (.constant (.text ↑"eq")) := by cbv
  have htree' : tree? (normalChars continuedChars) = some (.constant (.text ↑"==")) := by cbv
  have htexts := h continuedChars _ _ htree htree'
  exact absurd htexts (by decide)

end Expression
end WorkflowKit
