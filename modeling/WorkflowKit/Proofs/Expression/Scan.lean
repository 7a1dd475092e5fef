/-
# The texts between quotes in a text

`scan` finds the texts between quotes in an expression text without cutting the rest into tokens.
Of the characters before a quote it keeps what matters to the text behind it: whether they are part
of a comment, which letters stand right before the quote, and whether they hold a token
(`Lead.next`).

Letters are put before quotes as a few words only; in front of a quote a run of other letters is a
token like any other (`Lead.Ended`).  So two runs of other letters lead to the same texts, and do so
as long as they go on (`scan_alike`).
-/

import WorkflowKit.Expression.Normal
import WorkflowKit.Expression.Token.List

namespace WorkflowKit
namespace Expression

/-- What stands before a place, since the last text between quotes. -/
structure Lead where
  /-- Whether the place is part of a comment. -/
  comment : Bool
  /-- The letters, digits and underscores right before the place, the last one first. -/
  run : List Char
  /-- Whether a token stands before these. -/
  parted : Bool
  deriving DecidableEq, Repr

namespace Lead

/-- Nothing but blanks stands before the place, behind a token or behind a text between quotes. -/
def fresh (parted : Bool) : Lead := ⟨false, [], parted⟩

/-- Behind one character more, which is no quote outside of comments. -/
def next (s : Lead) (c : Char) : Lead :=
  if s.comment then ⟨c != '\n', [], s.parted⟩
  else if Text.isBlank c || c == '\\' then ⟨false, [], s.parted || !s.run.isEmpty⟩
  else if c == '#' then ⟨true, [], s.parted || !s.run.isEmpty⟩
  else if extendsName c then ⟨false, c :: s.run, s.parted⟩
  else ⟨false, [], true⟩

/-- The text between quotes that begins at the place, with whether a token stands before it. -/
def quote (s : Lead) (body : List Char) : Bool × Quotation :=
  match quotationLetters.find? fun e => e.1 == s.run.reverse.map Char.toLower with
  | some (_, bytes, raw, formatted) => (s.parted, ⟨bytes, raw, formatted, body⟩)
  | none => (true, ⟨false, false, false, body⟩)

end Lead

/-- The texts between quotes in a text, each with whether another token stands before it.  The first
argument counts the characters that belong to the text between quotes before. -/
def scan : Nat → Lead → List Char → List (Bool × Quotation)
  | _, _, [] => []
  | skip + 1, s, _ :: cs => scan skip s cs
  | 0, s, c :: cs =>
    if isQuote c && !s.comment then
      match afterQuote? c cs with
      | some (body, rest) => s.quote body :: scan (cs.length - rest.length) (.fresh false) cs
      | none => []
    else scan 0 (s.next c) cs

variable {s s' : Lead} {c q : Char} {w cs body rest : List Char} {parted : Bool}

/-! ### Steps -/

/-- What is left behind a closing quote is an end of the text. -/
theorem untilQuote?_suffix (h : untilQuote? q cs = some (body, rest)) : rest <:+ cs := by
  fun_induction untilQuote? q cs generalizing body with
  | case1 | case3 | case5 => cases h
  | case2 | case4 =>
    cases h
    exact List.suffix_cons _ _
  | case6 d cs _ _ ih =>
    obtain ⟨⟨b, r⟩, hb, h⟩ := Option.map_eq_some_iff.1 h
    cases h
    exact ((ih hb).trans (List.suffix_cons _ _)).trans (List.suffix_cons _ _)
  | case7 c d cs _ _ _ ih =>
    obtain ⟨⟨b, r⟩, hb, h⟩ := Option.map_eq_some_iff.1 h
    cases h
    exact (ih hb).trans (List.suffix_cons _ _)

/-- What is left behind three closing quotes is an end of the text. -/
theorem untilThreeQuotes?_suffix (h : untilThreeQuotes? q cs = some (body, rest)) :
    rest <:+ cs := by
  fun_induction untilThreeQuotes? q cs generalizing body with
  | case1 d cs ih =>
    obtain ⟨⟨b, r⟩, hb, h⟩ := Option.map_eq_some_iff.1 h
    cases h
    exact ((ih hb).trans (List.suffix_cons _ _)).trans (List.suffix_cons _ _)
  | case2 =>
    cases h
    exact (List.tail_suffix _).trans ((List.suffix_cons _ _).trans (List.suffix_cons _ _))
  | case3 c d cs _ _ ih =>
    obtain ⟨⟨b, r⟩, hb, h⟩ := Option.map_eq_some_iff.1 h
    cases h
    exact (ih hb).trans (List.suffix_cons _ _)
  | case4 => cases h

/-- What is left behind a text between quotes is an end of the text, with one quote or three. -/
theorem afterQuote?_suffix (h : afterQuote? q cs = some (body, rest)) : rest <:+ cs := by
  unfold afterQuote? at h
  split at h
  · split at h
    · exact (untilThreeQuotes?_suffix h).trans ((List.suffix_cons _ _).trans (List.suffix_cons _ _))
    · exact untilQuote?_suffix h
  · exact untilQuote?_suffix h

/-- The characters of a text between quotes are passed over. -/
theorem scan_skip (s : Lead) (w cs : List Char) : scan w.length s (w ++ cs) = scan 0 s cs := by
  induction w with
  | nil => rfl
  | cons c w ih => exact ih

/-- A text between quotes. -/
theorem scan_quote (hq : isQuote q = true) (hs : s.comment = false)
    (h : afterQuote? q cs = some (body, rest)) :
    scan 0 s (q :: cs) = s.quote body :: scan 0 (.fresh false) rest := by
  obtain ⟨w, rfl⟩ := afterQuote?_suffix h
  rw [scan, if_pos (by simp [hq, hs]), h]
  dsimp only
  rw [show (w ++ rest).length - rest.length = w.length by simp, scan_skip]

/-- A text between quotes without an end. -/
theorem scan_unclosed (hq : isQuote q = true) (hs : s.comment = false)
    (h : afterQuote? q cs = none) : scan 0 s (q :: cs) = [] := by
  rw [scan, if_pos (by simp [hq, hs]), h]

/-- A character that is no quote, or stands in a comment, changes only what leads to the next text.
-/
theorem scan_next (h : (isQuote c && !s.comment) = false) :
    scan 0 s (c :: cs) = scan 0 (s.next c) cs := by
  rw [scan, if_neg (by simp [h])]

/-- A text without quotes. -/
theorem scan_plain (hw : w.all (fun c => !isQuote c) = true) :
    scan 0 s (w ++ cs) = scan 0 (w.foldl Lead.next s) cs := by
  induction w generalizing s with
  | nil => rfl
  | cons c w ih =>
    simp only [List.all_cons, Bool.and_eq_true, Bool.not_eq_true'] at hw
    rw [List.cons_append, scan_next (by simp [hw.1]), ih (by simpa using hw.2), List.foldl_cons]

/-! ### Letters before a quote -/

/-- Whether a character is one of the letters that may stand before a quote. -/
def isPrefixLetter (c : Char) : Bool := ['r', 'u', 'b', 'f'].contains c.toLower

/-- Whether the letters before a place, or any that go on from them, cannot stand before a quote. -/
def Lead.isSpoiled (s : Lead) : Bool := !s.comment && s.run.any fun c => !isPrefixLetter c

/-- Prefixes consist of four letters. -/
theorem contains_of_mem_quotationLetters :
    ∀ e ∈ quotationLetters, ∀ d ∈ e.1, ['r', 'u', 'b', 'f'].contains d = true := by
  simp [quotationLetters]

/-- Letters of which one is none of the four are no prefix. -/
theorem find?_quotationLetters (hw : w.any (fun c => !isPrefixLetter c) = true) :
    quotationLetters.find? (fun e => e.1 == w.map Char.toLower) = none := by
  rw [List.find?_eq_none]
  rintro e he heq
  obtain ⟨c, hc, hother⟩ := List.any_eq_true.1 hw
  have hmem : c.toLower ∈ e.1 := eq_of_beq heq ▸ List.mem_map_of_mem hc
  have hd := contains_of_mem_quotationLetters e he c.toLower hmem
  rw [isPrefixLetter, hd] at hother
  cases hother

/-- Behind letters that are no prefix a text between quotes has none, and a token stands before it.
-/
theorem Lead.quote_spoiled (h : s.isSpoiled = true) (body : List Char) :
    s.quote body = (true, ⟨false, false, false, body⟩) := by
  rw [isSpoiled, Bool.and_eq_true] at h
  rw [quote, find?_quotationLetters (by simpa using h.2)]

/-- Behind blanks a text between quotes has no prefix. -/
theorem Lead.quote_fresh (parted : Bool) (body : List Char) :
    (fresh parted).quote body = (parted, ⟨false, false, false, body⟩) := rfl

/-- The same stands before two places, or runs of letters that cannot stand before a quote. -/
def Lead.Alike (s s' : Lead) : Prop := s = s' ∨ s.isSpoiled = true ∧ s'.isSpoiled = true

/-- Places that are alike are both in a comment, or neither is. -/
theorem Lead.Alike.comment_eq (h : s.Alike s') : s.comment = s'.comment := by
  rcases h with rfl | ⟨h, h'⟩
  · rfl
  · simp only [isSpoiled, Bool.and_eq_true, Bool.not_eq_true'] at h h'
    rw [h.1, h'.1]

/-- The same text between quotes begins at places that are alike. -/
theorem Lead.Alike.quote_eq (h : s.Alike s') (body : List Char) : s.quote body = s'.quote body := by
  rcases h with rfl | ⟨h, h'⟩
  · rfl
  · rw [quote_spoiled h, quote_spoiled h']

/-- Places that are alike stay so behind the same character: letters that are no prefix do not
become one. -/
theorem Lead.Alike.next (h : s.Alike s') (c : Char) : (s.next c).Alike (s'.next c) := by
  rcases h with rfl | ⟨h, h'⟩
  · exact .inl rfl
  · obtain ⟨comment, run, parted⟩ := s
    obtain ⟨comment', run', parted'⟩ := s'
    simp only [isSpoiled, Bool.and_eq_true, Bool.not_eq_true'] at h h'
    obtain ⟨rfl, hrun⟩ := h
    obtain ⟨rfl, hrun'⟩ := h'
    have hne : run.isEmpty = false := by cases run <;> simp_all
    have hne' : run'.isEmpty = false := by cases run' <;> simp_all
    unfold Lead.next
    simp only [hne, hne', Bool.not_false, Bool.or_true, Bool.false_eq_true, if_false]
    split
    · exact .inl rfl
    · split
      · exact .inl rfl
      · split
        · exact .inr (by simp [isSpoiled, hrun, hrun'])
        · exact .inl rfl

/-- And behind the same text. -/
theorem Lead.Alike.foldl (h : s.Alike s') (w : List Char) :
    (w.foldl Lead.next s).Alike (w.foldl Lead.next s') := by
  induction w generalizing s s' with
  | nil => exact h
  | cons c w ih => exact ih (h.next c)

/-- **What leads to a place alike leads to the same texts between quotes.** -/
theorem scan_alike (h : s.Alike s') : scan 0 s cs = scan 0 s' cs := by
  induction cs generalizing s s' with
  | nil => rfl
  | cons c cs ih =>
    by_cases hquote : (isQuote c && !s.comment) = true
    · have hquote' := hquote
      rw [h.comment_eq] at hquote'
      rw [scan, scan, if_pos hquote, if_pos hquote']
      simp only [h.quote_eq]
    · have hquote' := hquote
      rw [h.comment_eq] at hquote'
      rw [scan, scan, if_neg hquote, if_neg hquote']
      exact ih (h.next c)

/-! ### Ends of tokens -/

/-- A token ends at the place, unless it goes on. -/
def Lead.Ended (s : Lead) : Prop := s = .fresh true ∨ s.isSpoiled = true

/-- Behind a token that does not go on. -/
theorem scan_ended (h : s.Ended) (hcs : ∀ c ∈ cs.head?, extendsName c = false) :
    scan 0 s cs = scan 0 (.fresh true) cs := by
  rcases h with rfl | h
  · rfl
  · cases cs with
    | nil => rfl
    | cons c cs =>
      have hc : extendsName c = false := hcs c rfl
      have hspoiled := h
      simp only [Lead.isSpoiled, Bool.and_eq_true, Bool.not_eq_true'] at h
      by_cases hquote : isQuote c = true
      · cases hafter : afterQuote? c cs with
        | none => rw [scan_unclosed hquote h.1 hafter, scan_unclosed hquote rfl hafter]
        | some p =>
          rw [scan_quote hquote h.1 hafter, scan_quote hquote rfl hafter,
            Lead.quote_spoiled hspoiled, Lead.quote_fresh]
      · have hrun : s.run.isEmpty = false := by cases hr : s.run <;> simp_all
        rw [scan_next (by simp [hquote]), scan_next (by simp [hquote])]
        refine congrArg (scan 0 · cs) ?_
        simp [Lead.next, Lead.fresh, h.1, hc, hrun]

end Expression
end WorkflowKit
