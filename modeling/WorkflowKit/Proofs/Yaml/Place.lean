/-
# Places on a page

A text is read in the order in which it was written.  So the places of the reader are the states of
the page: behind what a page `p` holds, the reader of a later page `e` stands at `e.place p`, in the
column in which the writer stood (`place_next_put`, `place_next_endLine`).

A page that goes on from `p` begins with what `p` holds: `p ≤ e`.  Whatever is written, the page
only grows (`le_writeNode`), so that every state of the page on the way is such a place.
-/

import Mathlib.Order.Basic
import WorkflowKit.Yaml.Cursor
import WorkflowKit.Yaml.Writer

namespace WorkflowKit
namespace Yaml

/-- Whether a character takes one column of its line. -/
def isInline (c : Char) : Bool := !isBreak c && c != '\ufeff'

/-- The reader ends lines at the characters that the writer breaks lines with, and at carriage
returns, which the writer never leaves bare. -/
theorem isBreak_eq (c : Char) : isBreak c = (isWrittenBreak c || c == '\r') := by
  rw [isBreak, isWrittenBreak]
  cases c == '\n' <;> cases c == '\r' <;> simp

/-- Every line break of the writer is one for the reader. -/
theorem isBreak_of_isWrittenBreak {c : Char} (h : isWrittenBreak c = true) : isBreak c = true := by
  rw [isBreak_eq, h, Bool.true_or]

/-- The writer breaks no line with a carriage return, so the reader never has a pair of characters
to count as one line end. -/
theorem ne_return_of_isWrittenBreak {c : Char} (h : isWrittenBreak c = true) : c ≠ '\r' := by
  rintro rfl
  exact absurd h (by decide)

/-- A character that is not special is no tab, no carriage return, no end of the text and no mark of
its beginning. -/
theorem of_isSpecial {c : Char} (h : isSpecial c = false) :
    c ≠ '\t' ∧ c ≠ '\r' ∧ c ≠ endMark ∧ c ≠ '\ufeff' := by
  refine ⟨?_, ?_, ?_, ?_⟩ <;>
  · rintro rfl
    exact absurd h (by decide)

/-- The characters of words. -/
theorem endsToken_of_word {c : Char} (hspecial : isSpecial c = false) (hblank : c ≠ ' ')
    (hbreak : isWrittenBreak c = false) : endsToken c = false ∧ isInline c = true := by
  obtain ⟨htab, hreturn, hend, hmark⟩ := of_isSpecial hspecial
  have hbreak : isBreak c = false := by simp [isBreak_eq, hbreak, hreturn]
  simp [endsToken, endsWord, endsLine, isInline, htab, hblank, hend, hmark, hbreak]

namespace Page

variable {p q e : Page} {c : Char} {cs ds : List Char}

/-- A page comes before another if the other begins with what it holds. -/
instance : Preorder Page where
  le p q := p.written <:+ q.written
  le_refl p := List.suffix_refl p.written
  le_trans _ _ _ := List.IsSuffix.trans

/-- The order in terms of what is written: pages are kept backwards, so the earlier page is a suffix
of the later one. -/
theorem le_iff : p ≤ q ↔ p.written <:+ q.written := Iff.rfl

/-! ### Writing goes on -/

@[simp]
theorem put_nil (p : Page) : p.put [] = p := rfl

/-- Two texts written one behind the other are one text written at once. -/
theorem put_append (cs ds : List Char) (p : Page) : p.put (cs ++ ds) = (p.put cs).put ds := by
  simp [put, Nat.add_assoc]

/-- Writing text does not change whether the page stands at the beginning of a line's entry. -/
@[simp]
theorem put_fresh (cs : List Char) (p : Page) : (p.put cs).fresh = p.fresh := rfl

/-- Writing text leaves what is known of a blank in front as it is. -/
@[simp]
theorem put_blank (cs : List Char) (p : Page) : (p.put cs).blank = p.blank := rfl

/-- Text without line ends moves the column by its length. -/
@[simp]
theorem put_column (cs : List Char) (p : Page) : (p.put cs).column = p.column + cs.length := rfl

@[simp]
theorem insideText_column (p : Page) : p.insideText.column = p.column := rfl

/-- Text is written behind what the page holds. -/
theorem le_put (cs : List Char) (p : Page) : p ≤ p.put cs := List.suffix_append ..

/-- A line end is written behind what the page holds. -/
theorem le_endLine (c : Char) (p : Page) : p ≤ p.endLine c := List.suffix_cons ..

theorem le_insideText (p : Page) : p ≤ p.insideText := List.suffix_refl _

/-- An indicator, with the blank that it may need, is written behind what the page holds. -/
theorem le_indicator (cs : List Char) (needsBlank blank fresh : Bool) (p : Page) :
    p ≤ p.indicator cs needsBlank blank fresh := by
  rw [indicator]
  split <;> exact le_put _ p

/-- Going down to an indentation, with or without a line end, only adds to the page. -/
theorem le_indent (n : Nat) (p : Page) : p ≤ p.indent n := by
  have hput (r : Page) :
      r ≤ if r.column < n then { r.put (List.replicate (n - r.column) ' ') with blank := true }
        else r := by
    split
    · exact le_put _ r
    · exact le_refl r
  rw [indent]
  refine le_trans ?_ (hput _)
  split
  · exact le_endLine _ p
  · exact le_refl p

/-- Line ends written one after the other only add to the page. -/
theorem le_foldl_endLine (cs : List Char) (p : Page) :
    p ≤ cs.foldl (fun p c => p.endLine c) p := by
  induction cs generalizing p with
  | nil => exact le_refl p
  | cons c cs ih => exact (le_endLine c p).trans (ih _)

/-- The line breaks of a scalar, with the indentation behind them, only add to the page. -/
theorem le_breaks (l : Layout) (cs : List Char) (p : Page) : p ≤ p.breaks l cs := by
  rw [breaks]
  refine le_trans ?_ ((le_foldl_endLine cs _).trans (le_indent ..))
  split
  · exact le_endLine ..
  · exact le_refl p

/-- The runs of a scalar in single quotes are written behind what the page holds. -/
theorem le_singleRuns (l : Layout) (first : Bool) (rs : List Run) (p : Page) :
    p ≤ singleRuns l first rs p := by
  induction rs generalizing first p with
  | nil => exact le_refl p
  | cons r rs ih =>
    cases r with
    | blanks n =>
      rw [singleRuns]
      refine le_trans ?_ (ih ..)
      split
      · exact le_indent ..
      · exact le_put ..
    | breaks cs => exact (le_breaks l cs p).trans (ih ..)
    | word cs => exact (le_put _ p).trans (ih ..)

/-- A scalar in single quotes, its quotes included, is written behind what the page holds. -/
theorem le_single (l : Layout) (cs : List Char) (p : Page) : p ≤ p.single l cs :=
  (le_indicator ..).trans ((le_singleRuns ..).trans (le_indicator ..))

/-- The runs of a plain scalar are written behind what the page holds. -/
theorem le_plainRuns (l : Layout) (rs : List Run) (p : Page) : p ≤ plainRuns l rs p := by
  induction rs generalizing p with
  | nil => exact le_refl p
  | cons r rs ih =>
    cases r with
    | blanks n =>
      rw [plainRuns]
      refine le_trans ?_ (ih _)
      split
      · exact le_indent l.indent p
      · exact le_put ..
    | breaks cs =>
      rw [plainRuns]
      exact (le_breaks l cs p).trans ((le_insideText _).trans (ih _))
    | word cs => exact (le_put cs p).trans (ih _)

/-- A plain scalar is written behind what the page holds. -/
theorem le_plain (l : Layout) (cs : List Char) (p : Page) : p ≤ p.plain l cs := by
  rw [plain]
  refine le_trans ?_ (le_plainRuns ..)
  split
  · exact le_insideText p
  · exact le_put [' '] p

/-- Where a line is broken inside double quotes, the pending characters are written first, so the
page goes on from them. -/
theorem le_breakDouble (l : Layout) (pending : List Char) (next : Char) (p : Page) :
    p.put pending.reverse ≤ p.breakDouble l pending next := by
  have hbreak : p.put pending.reverse ≤ ((p.put (pending.reverse ++ ['\\'])).indent l.indent) := by
    rw [put_append]
    exact (le_put ..).trans (le_indent ..)
  rw [breakDouble]
  split
  · exact hbreak.trans (le_put _ (insideText _))
  · exact hbreak

/-- The code points of a scalar in double quotes go behind the characters that still wait to be
written. -/
theorem le_doublePoints (l : Layout) (first : Bool) (pending : List Char) (qs : List CodePoint)
    (p : Page) : p.put pending.reverse ≤ doublePoints l first pending qs p := by
  induction qs generalizing first pending p with
  | nil => exact le_refl _
  | cons q qs ih =>
    simp only [doublePoints]
    split
    · split
      · exact (le_breakDouble l pending _ p).trans ((le_put _ _).trans (ih ..))
      · refine le_trans ?_ (ih ..)
        rw [List.reverse_cons, put_append]
        exact le_put ..
    · refine le_trans ?_ (ih ..)
      rw [put_append, List.reverse_nil, put_nil]
      refine (le_put (escaped q) _).trans ?_
      split
      · exact le_breakDouble l [] _ (put (escaped q) (p.put pending.reverse))
      · exact le_refl _

/-- A scalar in double quotes, its quotes included, is written behind what the page holds. -/
theorem le_double (l : Layout) (t : Text) (p : Page) : p ≤ p.double l t := by
  have hopen := le_indicator ['"'] true false false p
  have hpoints := le_doublePoints l true [] t.points (p.indicator ['"'] true false false)
  exact hopen.trans (hpoints.trans (le_indicator ..))

/-- A scalar is written behind what the page holds, in whichever of the three styles. -/
theorem le_styled (style : Style) (l : Layout) (t : Text) (p : Page) : p ≤ p.styled style l t := by
  cases style with
  | plain => exact le_plain ..
  | single => exact le_single ..
  | double => exact le_double ..

end Page

/-! ### Reading goes on -/

namespace Cursor

variable {c d : Cursor} {ch : Char} {cs ds : List Char}

/-- A cursor is determined by what it has before it and by its index, line and column. -/
theorem eq_of_fields (hrest : c.rest = d.rest) (hindex : c.index = d.index)
    (hline : c.line = d.line) (hcolumn : c.column = d.column) : c = d := by
  obtain ⟨rest, left, index, line, column, hleft⟩ := c
  obtain ⟨rest', left', index', line', column', hleft'⟩ := d
  simp only at hrest hindex hline hcolumn
  subst hrest hindex hline hcolumn hleft hleft'
  rfl

/-- Over a character inside a line the cursor moves by one column. -/
theorem next_of_inline (h : c.rest = ch :: cs) (hch : isInline ch = true) :
    c.next.rest = cs ∧ c.next.index = c.index + 1 ∧ c.next.line = c.line ∧
      c.next.column = c.column + 1 := by
  obtain ⟨hbreak, hmark⟩ : isBreak ch = false ∧ ch ≠ '\ufeff' := by simpa [isInline] using hch
  rw [next]
  split
  · next hnil => rw [h] at hnil; cases hnil
  · next ch' rest hcons =>
    obtain ⟨rfl, rfl⟩ := List.cons.inj (h.symm.trans hcons)
    simp [hbreak, hmark]

/-- Over a line break of the writer the cursor moves to the first column of the next line. -/
theorem next_of_break (h : c.rest = ch :: cs) (hch : isWrittenBreak ch = true) :
    c.next.rest = cs ∧ c.next.index = c.index + 1 ∧ c.next.line = c.line + 1 ∧
      c.next.column = 0 := by
  have hbreak := isBreak_of_isWrittenBreak hch
  have hreturn := ne_return_of_isWrittenBreak hch
  rw [next]
  split
  · next hnil => rw [h] at hnil; cases hnil
  · next ch' rest hcons =>
    obtain ⟨rfl, rfl⟩ := List.cons.inj (h.symm.trans hcons)
    simp [hbreak, hreturn]

end Cursor

namespace Page

variable {p q e : Page} {c : Char} {cs ds : List Char}

/-- What the text of `e` holds behind the text of `p`. -/
def rest (e p : Page) : List Char := e.written.reverse.drop p.written.length

/-- The place in the text of `e` behind the text of `p`, in the column of `p`. -/
def place (e p : Page) : Cursor :=
  ⟨e.rest p, (e.rest p).length, p.written.length, p.written.countP isBreak, p.column, rfl⟩

/-- At the place behind `p` the reader has before it what `e` holds behind `p`. -/
@[simp]
theorem place_rest (e p : Page) : (e.place p).rest = e.rest p := rfl

/-- The number of characters left at a place. -/
@[simp]
theorem place_left (e p : Page) : (e.place p).left = (e.rest p).length := rfl

/-- The index of a place is the number of characters that the page before it holds. -/
@[simp]
theorem place_index (e p : Page) : (e.place p).index = p.written.length := rfl

/-- The reader stands in the column in which the writer stood. -/
@[simp]
theorem place_column (e p : Page) : (e.place p).column = p.column := rfl

/-- The place depends on the text and the column alone. -/
theorem place_congr (hwritten : p.written = q.written) (hcolumn : p.column = q.column) :
    e.place p = e.place q := by
  rw [place, place]
  simp only [rest, hwritten, hcolumn]

/-- Places forget what a page says of blanks and fresh lines: only its text and its column count. -/
@[simp]
theorem place_insideText (e p : Page) : e.place p.insideText = e.place p := rfl

/-- The page behind the blank that stands before a scalar, if one is needed. -/
def lead (p : Page) : Page := if p.blank then p else p.put [' ']

/-- An indicator that needs a blank before it is written behind one, unless the page ends in a blank
already. -/
theorem indicator_written (cs : List Char) (blank fresh : Bool) (p : Page) :
    (p.indicator cs true blank fresh).written = (p.lead.put cs).written := by
  cases hblank : p.blank <;> simp [indicator, lead, put, hblank]

/-- The column behind such an indicator, its blank counted. -/
theorem indicator_column (cs : List Char) (blank fresh : Bool) (p : Page) :
    (p.indicator cs true blank fresh).column = (p.lead.put cs).column := by
  cases hblank : p.blank
  · simp [indicator, lead, put, hblank]
    omega
  · simp [indicator, lead, put, hblank]

/-- So the place behind an indicator is the place behind its characters. -/
theorem place_indicator (e : Page) (cs : List Char) (blank fresh : Bool) (p : Page) :
    e.place (p.indicator cs true blank fresh) = e.place (p.lead.put cs) :=
  place_congr (indicator_written ..) (indicator_column ..)

/-- A page that goes on from an indicator goes on from its blank and its characters. -/
theorem lead_put_le (cs : List Char) (blank fresh : Bool) (p : Page) :
    p.lead.put cs ≤ p.indicator cs true blank fresh :=
  le_iff.2 (indicator_written .. ▸ List.suffix_refl _)

/-- The place behind an indicator that needs no blank is the place behind its characters. -/
theorem place_indicator_bare (e : Page) (cs : List Char) (blank fresh : Bool) (p : Page) :
    e.place (p.indicator cs false blank fresh) = e.place (p.put cs) := by
  refine place_congr ?_ ?_ <;> simp [indicator, put]

/-- A page that goes on from an indicator without a blank goes on from its characters. -/
theorem put_le_indicator_bare (cs : List Char) (blank fresh : Bool) (p : Page) :
    p.put cs ≤ p.indicator cs false blank fresh := by
  rw [le_iff]
  simp [indicator, put]

/-- Behind the whole page nothing is left. -/
theorem rest_self (e : Page) : e.rest e = [] := by
  rw [rest, List.drop_of_length_le (by simp)]

/-- If `q` holds `cs` behind what `p` holds, a later page holds behind `p` first `cs` and then what
it holds behind `q`. -/
theorem rest_eq_of_le (h : q ≤ e) (hq : q.written = cs.reverse ++ p.written) :
    e.rest p = cs ++ e.rest q := by
  obtain ⟨ds, hds⟩ := h
  have hlength : q.written.length = p.written.length + cs.length := by
    rw [hq, List.length_append, List.length_reverse, Nat.add_comm]
  have htext : e.written.reverse = p.written.reverse ++ (cs ++ ds.reverse) := by
    rw [← hds, hq]
    simp
  rw [rest, rest, htext, hlength, List.drop_left' (by simp), ← List.append_assoc,
    List.drop_left' (by simp)]

/-- Behind `p` a page that goes on from `p.put cs` holds `cs`, then what follows. -/
theorem rest_put (h : p.put cs ≤ e) : e.rest p = cs ++ e.rest (p.put cs) :=
  rest_eq_of_le h rfl

/-- Behind `p` a page that goes on from a line end holds the line end, then what follows. -/
theorem rest_endLine (h : p.endLine c ≤ e) : e.rest p = c :: e.rest (p.endLine c) :=
  rest_eq_of_le h (show (p.endLine c).written = [c].reverse ++ p.written from rfl)

/-- The later the page, the less is left behind it. -/
theorem rest_length_le (h : p ≤ q) : (e.rest q).length ≤ (e.rest p).length := by
  have hlength : p.written.length ≤ q.written.length := h.length_le
  simp only [rest, List.length_drop, List.length_reverse]
  omega

/-- Behind a character within a line. -/
theorem place_next_put (h : p.put [c] ≤ e) (hc : isInline c = true) :
    (e.place p).next = e.place (p.put [c]) := by
  obtain ⟨hrest, hindex, hline, hcolumn⟩ := Cursor.next_of_inline (c := e.place p) (rest_put h) hc
  have hbreak : isBreak c = false := by
    rw [isInline, Bool.and_eq_true, Bool.not_eq_true'] at hc
    exact hc.1
  refine Cursor.eq_of_fields hrest hindex ?_ hcolumn
  rw [hline, place, place, put]
  simp [hbreak]

/-- Behind the end of a line. -/
theorem place_next_endLine (h : p.endLine c ≤ e) (hc : isWrittenBreak c = true) :
    (e.place p).next = e.place (p.endLine c) := by
  obtain ⟨hrest, hindex, hline, hcolumn⟩ :=
    Cursor.next_of_break (c := e.place p) (rest_endLine h) hc
  refine Cursor.eq_of_fields hrest hindex ?_ hcolumn
  rw [hline, place, place, endLine]
  simp [isBreak_of_isWrittenBreak hc]

/-- Behind characters within a line. -/
theorem place_skip_put (h : p.put cs ≤ e) (hcs : ∀ c ∈ cs, isInline c = true) :
    (e.place p).skip cs.length = e.place (p.put cs) := by
  induction cs generalizing p with
  | nil => rfl
  | cons c cs ih =>
    rw [List.forall_mem_cons] at hcs
    have hput : p.put (c :: cs) = (p.put [c]).put cs := put_append [c] cs p
    rw [hput] at h ⊢
    rw [List.length_cons, Cursor.skip, place_next_put ((le_put cs _).trans h) hcs.1, ih h hcs.2]

/-- Behind the characters with a property. -/
theorem place_takeWhile {f : Char → Bool} (h : p.put cs ≤ e) (hcs : ∀ c ∈ cs, isInline c = true)
    (hf : ∀ c ∈ cs, f c = true) (hnext : ∀ c ∈ (e.rest (p.put cs)).head?, f c = false) :
    (e.place p).takeWhile f = (cs, e.place (p.put cs)) := by
  have hnil : (e.rest (p.put cs)).takeWhile f = [] := by
    cases hrest : e.rest (p.put cs) with
    | nil => rfl
    | cons c ds =>
      rw [List.takeWhile_cons, hnext c (by rw [hrest]; rfl)]
      rfl
  have htaken : (e.rest p).takeWhile f = cs := by
    rw [rest_put h, List.takeWhile_append_of_pos hf, hnil, List.append_nil]
  rw [Cursor.takeWhile]
  simp only [place_rest, htaken, place_skip_put h hcs]

/-! ### Lines and indentations -/

variable {bs : List Char} {n : Nat}

/-- The page behind some line ends and an indentation. -/
def linesDown (bs : List Char) (n : Nat) (p : Page) : Page :=
  (bs.foldl (fun p c => p.endLine c) p).put (List.replicate n ' ')

/-- Line ends and an indentation only add to the page. -/
theorem le_linesDown (bs : List Char) (n : Nat) (p : Page) : p ≤ p.linesDown bs n :=
  (le_foldl_endLine bs p).trans (le_put ..)

/-- The reader finds the line ends and then the blanks of the indentation. -/
theorem rest_linesDown (h : p.linesDown bs n ≤ e) :
    e.rest p = bs ++ List.replicate n ' ' ++ e.rest (p.linesDown bs n) := by
  refine rest_eq_of_le h ?_
  have hfold (p : Page) :
      (bs.foldl (fun p c => p.endLine c) p).written = bs.reverse ++ p.written := by
    clear h
    induction bs generalizing p with
    | nil => rfl
    | cons b bs ih => rw [List.foldl_cons, ih]; simp [endLine]
  rw [linesDown, put, hfold]
  simp

/-- A new line is begun unless the line is fresh and the indentation lies ahead. -/
theorem indent_eq_linesDown (h : p.fresh = false ∨ n < p.column) :
    p.indent n = p.linesDown ['\n'] n := by
  have hline : (!p.fresh || n < p.column || (p.column == n && !p.blank)) = true := by
    rcases h with h | h <;> simp [h]
  rw [indent, if_pos hline]
  rcases Nat.eq_zero_or_pos n with rfl | hn
  · rfl
  · exact if_pos hn

/-- Behind one line end or more the page stands in the first column, fresh and behind a blank,
whatever it was before. -/
theorem foldl_endLine_of_ne_nil (h : bs ≠ []) (p : Page) :
    bs.foldl (fun p c => p.endLine c) p = ⟨bs.reverse ++ p.written, 0, true, true⟩ := by
  induction bs generalizing p with
  | nil => exact absurd rfl h
  | cons b bs ih =>
    cases bs with
    | nil => rfl
    | cons b' bs => rw [List.foldl_cons, ih (by simp)]; simp [endLine]

/-- Behind line ends the column is that of the indentation. -/
theorem linesDown_column (h : bs ≠ []) (p : Page) : (p.linesDown bs n).column = n := by
  rw [linesDown, foldl_endLine_of_ne_nil h, put_column, List.length_replicate, Nat.zero_add]

end Page

open Page

/-- A text, in the style that it takes at its position, is written behind what the page holds. -/
theorem le_writeText (at_ : Position) (t : Text) (p : Page) : p ≤ writeText at_ t p := le_styled ..

/-- A key is written behind what the page holds, simple or behind a question mark. -/
theorem le_writeKey (n : Nat) (t : Text) (p : Page) : p ≤ writeKey n t p := le_styled ..

mutual

/-- **A page grows when a value is written.** -/
theorem le_writeNode (at_ : Position) (p : Page) (v : Value) : p ≤ writeNode at_ p v := by
  cases v with
  | null => exact le_plain ..
  | bool b => exact le_plain ..
  | int n => exact le_plain ..
  | float x => exact le_plain ..
  | text s => exact le_writeText ..
  | list vs =>
    cases vs with
    | nil => exact (le_indicator ..).trans (le_indicator ..)
    | cons v vs => exact le_writeItems _ p (v :: vs)
  | map es =>
    cases es with
    | nil => exact (le_indicator ..).trans (le_indicator ..)
    | cons e es => exact le_writeEntries _ p (e :: es)

/-- The items of a list are written behind what the page holds, one after the other. -/
theorem le_writeItems (n : Nat) (p : Page) (vs : List Value) : p ≤ writeItems n p vs := by
  cases vs with
  | nil => exact le_refl p
  | cons v vs =>
    rw [writeItems]
    exact (le_indent ..).trans
      ((le_indicator ..).trans ((le_writeNode _ _ v).trans (le_writeItems n _ vs)))

/-- The entries of a mapping are written behind what the page holds, one after the other. -/
theorem le_writeEntries (n : Nat) (p : Page) (es : List (Text × Value)) :
    p ≤ writeEntries n p es := by
  cases es with
  | nil => exact le_refl p
  | cons e es =>
    obtain ⟨k, v⟩ := e
    have hkey (b : Bool) : p.indent n ≤ if b then (writeKey n k (p.indent n)).indicator
        [':'] false false false else ((writeText ⟨some n, true⟩ k ((p.indent n).indicator
          ['?'] true false true)).indent n).indicator [':'] true false true := by
      cases b with
      | true => exact (le_writeKey ..).trans (le_indicator ..)
      | false =>
        exact (le_indicator ..).trans ((le_writeText ..).trans
          ((le_indent ..).trans (le_indicator ..)))
    rw [writeEntries]
    exact (le_indent ..).trans ((hkey _).trans ((le_writeNode _ _ v).trans
      (le_writeEntries n _ es)))

end
end Yaml
end WorkflowKit
