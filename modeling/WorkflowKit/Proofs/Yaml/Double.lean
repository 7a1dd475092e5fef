/-
# Texts between double quotes

A text between double quotes is written code point by code point and read in the same steps
(`reads_doublePoints`): a character that stands for itself, an escape, or a line end after a
backslash.  A line that begins with a blank begins with a backslash.

Where lines are indented by 80 columns or more, every line is too long from its start.  A line then
ends behind an escape, and ends once more at the blank behind it, whose backslash is already
written: the two backslashes are read as one, and the line end as a blank (`deepPoints`).
-/

import WorkflowKit.Proofs.Yaml.Escape

namespace WorkflowKit
namespace Yaml
namespace Page

variable {p q e : Page} {l : Layout} {n : Nat} {c' : Cursor} {ps : List CodePoint}

/-! ### Steps -/

/-- A character that stands for itself takes a column, and neither ends the text nor begins an
escape; only a blank ends a token. -/
theorem of_standsForItself {c : Char} (h : standsForItself c = true) :
    isInline c = true ∧ c ≠ '"' ∧ c ≠ '\\' ∧ (c ≠ ' ' → endsToken c = false) := by
  have hne {d : Char} (hd : standsForItself d = false) : c ≠ d := by
    rintro rfl
    exact absurd h (by simp [hd])
  have h1 := hne (d := '\n') (by decide)
  have h2 := hne (d := '\r') (by decide)
  have h3 := hne (d := '\x85') (by decide)
  have h4 := hne (d := '\u2028') (by decide)
  have h5 := hne (d := '\u2029') (by decide)
  have h6 := hne (d := '\ufeff') (by decide)
  have h7 := hne (d := '\t') (by decide)
  have h8 := hne (d := endMark) (by decide)
  have hbreak : isBreak c = false := by simp [isBreak, h1, h2, h3, h4, h5]
  refine ⟨by simp [isInline, hbreak, h6], hne (by decide), hne (by decide), fun hblank => ?_⟩
  simp [endsToken, endsWord, endsLine, hbreak, h7, h8, hblank]

/-- Behind a page that goes on with a backslash no more is left than behind that backslash: reading
gets nearer to the end. -/
theorem left_le_of_backslash (hput : p.put ['\\'] ≤ e) (hq : p.put ['\\'] ≤ q) :
    (e.place q).left ≤ (e.place p).next.left := by
  rw [place_next_put hput rfl]
  exact rest_length_le hq

/-- A character that stands for itself is read as itself, unless it is a blank. -/
theorem reads_self {c : Char} (hc : standsForItself c = true) (hblank : c ≠ ' ')
    (h : p.put [c] ≤ e) (hreads : Reads true '"' (e.place (p.put [c])) ps c') :
    Reads true '"' (e.place p) (.char c :: ps) c' := by
  obtain ⟨hinline, hquote, hbackslash, hends⟩ := of_standsForItself hc
  have hrest : (e.place p).rest = c :: _ := rest_put h
  rw [← place_next_put h hinline] at hreads
  by_cases hsingle : c = '\x27'
  · exact .otherQuote hrest (by simp [hsingle]) hreads
  · exact .char hrest (by simp [endsQuotedRun, hsingle, hquote, hbackslash, hends hblank]) hreads

/-- An escape is a backslash and at least one character more. -/
theorem exists_escaped_eq (q : CodePoint) : ∃ d ds, escaped q = '\\' :: d :: ds := by
  rw [escaped]
  split
  · exact ⟨_, _, rfl⟩
  · split
    · exact ⟨_, _, rfl⟩
    · split <;> exact ⟨_, _, rfl⟩

/-- Where an escape is written, its backslash is. -/
theorem put_backslash_le (q : CodePoint) : p.put ['\\'] ≤ p.put (escaped q) := by
  obtain ⟨d, ds, hds⟩ := exists_escaped_eq q
  rw [hds]
  exact (le_put (d :: ds) _).trans (put_append ['\\'] (d :: ds) p).ge

/-- An escape is read as the code point that it was written for. -/
theorem reads_escaped (q : CodePoint) (h : p.put (escaped q) ≤ e)
    (hreads : Reads true '"' (e.place (p.put (escaped q))) ps c') :
    Reads true '"' (e.place p) (q :: ps) c' := by
  obtain ⟨cs, hrest, hescape⟩ := quotedEscape_escaped q h
  have hbackslash := put_backslash_le (p := p) q
  have hmore : Reads true '"' (e.place p) ([q] ++ ps) c' :=
    .escape hrest (left_le_of_backslash (hbackslash.trans h) hbackslash)
      (fun fuel _ => hescape fuel) hreads
  exact hmore

/-- A backslash before a blank is read as the blank. -/
theorem reads_escapedBlank (h : (p.put ['\\']).put [' '] ≤ e)
    (hreads : Reads true '"' (e.place ((p.put ['\\']).put [' '])) ps c') :
    Reads true '"' (e.place p) (.char ' ' :: ps) c' := by
  have hput : p.put ['\\'] ≤ e := (le_put ..).trans h
  have hrest : (e.place (p.put ['\\'])).rest = ' ' :: _ := rest_put h
  suffices hmore : Reads true '"' (e.place p) ([.char ' '] ++ ps) c' from hmore
  refine .escape (rest_put hput) (left_le_of_backslash hput (le_put ..)) (fun fuel _ => ?_) hreads
  rw [place_next_put hput rfl, quotedEscape, Cursor.peek_of_rest hrest, ← place_next_put h rfl]
  rfl

/-- A line end behind a backslash is read as nothing, with the indentation that follows it. -/
theorem reads_lineDown (hn : 0 < n) (h : p.lineDown n ≤ e)
    (hnext : ∀ ch ∈ (e.rest (p.lineDown n)).head?, endsToken ch = false)
    (hreads : Reads true '"' (e.place (p.lineDown n)) ps c') :
    Reads true '"' (e.place p) ps c' := by
  obtain ⟨cs, hrest, hescape⟩ := quotedEscape_lineDown hn h hnext
  have hput : p.put ['\\'] ≤ p.lineDown n := le_linesDown ..
  have hmore : Reads true '"' (e.place p) ([] ++ ps) c' :=
    .escape hrest (left_le_of_backslash (hput.trans h) hput) hescape hreads
  exact hmore

/-- What is written from a page on begins with a character that ends no word. -/
theorem head_of_put {c : Char} (h : p.put [c] ≤ e) (hc : endsToken c = false) :
    ∀ ch ∈ (e.rest p).head?, endsToken ch = false := by
  rw [rest_put h]
  rintro _ ⟨⟩
  exact hc

/-- The end of a line and a character. -/
theorem reads_lineDown_self {c : Char} (hn : 0 < n) (hc : standsForItself c = true)
    (hblank : c ≠ ' ') (h : (p.lineDown n).put [c] ≤ e)
    (hreads : Reads true '"' (e.place ((p.lineDown n).put [c])) ps c') :
    Reads true '"' (e.place p) (.char c :: ps) c' :=
  reads_lineDown hn ((le_put ..).trans h) (head_of_put h ((of_standsForItself hc).2.2.2 hblank))
    (reads_self hc hblank h hreads)

/-- The end of a line and a blank. -/
theorem reads_lineDown_blank (hn : 0 < n) (h : ((p.lineDown n).put ['\\']).put [' '] ≤ e)
    (hreads : Reads true '"' (e.place (((p.lineDown n).put ['\\']).put [' '])) ps c') :
    Reads true '"' (e.place p) (.char ' ' :: ps) c' := by
  have hput : (p.lineDown n).put ['\\'] ≤ e := (le_put ..).trans h
  exact reads_lineDown hn ((le_put ..).trans hput) (head_of_put hput rfl)
    (reads_escapedBlank h hreads)

/-- The ends of two lines and a blank: the backslash that is written for the blank and the one that
ends the second line are read as one. -/
theorem reads_lineDown_twice (hn : 0 < n)
    (h : ((((p.lineDown n).put ['\\']).lineDown n).put ['\\']).put [' '] ≤ e)
    (hreads : Reads true '"'
      (e.place (((((p.lineDown n).put ['\\']).lineDown n).put ['\\']).put [' '])) ps c') :
    Reads true '"' (e.place p) (.char '\\' :: .char ' ' :: .char ' ' :: ps) c' := by
  have hput : (((p.lineDown n).put ['\\']).lineDown n).put ['\\'] ≤ e := (le_put ..).trans h
  have hdown : ((p.lineDown n).put ['\\']).lineDown n ≤ e := (le_put ..).trans hput
  have hpair : (p.lineDown n).put (escaped (.char '\\')) ≤ e := (le_linesDown ..).trans hdown
  have hbackslash : (p.lineDown n).put ['\\'] ≤ e := (le_put ['\\'] _).trans hpair
  have hnone : ∀ b ∈ ([] : List Char), isWrittenBreak b = true := by simp
  have hfold := Reads.lines hn rfl hnone hdown (head_of_put hput rfl) (by decide)
    (reads_escapedBlank h hreads)
  exact reads_lineDown hn ((le_put ..).trans hbackslash) (head_of_put hbackslash rfl)
    (reads_escaped (.char '\\') hpair hfold)

/-! ### What is read -/

/-- What code points are read as where all lines are too long.  `escape` tells whether an escape
stands before them. -/
def deepPoints (escape : Bool) : List CodePoint → List CodePoint
  | [] => []
  | q :: qs =>
    (if escape && q == .char ' ' && !qs.isEmpty then [.char '\\', .char ' ', .char ' '] else [q]) ++
      deepPoints (!q.isCharWith standsForItself) qs

/-- Whether all lines of a text are too long from their start. -/
def Layout.isDeep (l : Layout) : Bool := l.split && decide (width ≤ l.indent)

/-- What code points behind the first of a text are read as. -/
def readPoints (l : Layout) (escape : Bool) (qs : List CodePoint) : List CodePoint :=
  if l.isDeep then deepPoints escape qs else qs

variable {first escape : Bool} {qs : List CodePoint}

/-- Unless all lines are too long from their start, code points are read as they were written. -/
theorem readPoints_of_not_isDeep (h : l.isDeep = false) : readPoints l escape qs = qs := by
  rw [readPoints, if_neg (by simp [h])]

/-- Nothing is read as nothing. -/
@[simp]
theorem readPoints_nil : readPoints l escape [] = [] := by
  rw [readPoints]
  split <;> rfl

/-- A code point is read alone unless it is a blank behind an escape. -/
theorem readPoints_cons {q : CodePoint} :
    readPoints l escape (q :: qs) =
      (if (l.isDeep && (escape && q == .char ' ' && !qs.isEmpty)) = true then
        [.char '\\', .char ' ', .char ' '] else [q]) ++
        readPoints l (!q.isCharWith standsForItself) qs := by
  rw [readPoints, readPoints]
  cases l.isDeep with
  | true => rfl
  | false => rfl

/-- The characters that still wait are written before the closing quote. -/
theorem le_of_doublePoints {pending : List Char}
    (h : (doublePoints l first pending qs p).put ['"'] ≤ e) : p.put pending.reverse ≤ e :=
  (le_doublePoints ..).trans ((le_put ..).trans h)

/-- A character that stands for itself is kept for the end of its line. -/
theorem doublePoints_char {c : Char} (hc : standsForItself c = true) (pending : List Char) :
    doublePoints l first pending (.char c :: qs) p =
      if (!first && !qs.isEmpty && l.split && (c == ' ' || pending.isEmpty) &&
          decide (width < p.column + pending.length)) = true then
        doublePoints l false [c] qs (p.breakDouble l pending c)
      else doublePoints l false (c :: pending) qs p := by
  rw [doublePoints]
  exact if_pos hc

/-- The page behind an escape, where a line ends that has become too long. -/
def behindEscape (l : Layout) (qs : List CodePoint) (p : Page) : Page :=
  if (!qs.isEmpty && l.split && decide (width + 1 < p.column)) = true then
    p.breakDouble l [] (qs.headD (.char ' ')).toChar
  else p

/-- A line that ends behind an escape only adds to the page. -/
theorem le_behindEscape (l : Layout) (qs : List CodePoint) (p : Page) :
    p ≤ p.behindEscape l qs := by
  rw [behindEscape]
  split
  · exact le_breakDouble l [] _ p
  · exact le_refl p

/-- An escape is written at once. -/
theorem doublePoints_escaped {q : CodePoint} (hq : q.isCharWith standsForItself = false)
    (pending : List Char) :
    doublePoints l false pending (q :: qs) p =
      doublePoints l false [] qs
        (((p.put pending.reverse).put (escaped q)).behindEscape l qs) := by
  rw [doublePoints, ← put_append]
  exact if_neg (by simp [hq])

/-- No line ends behind the first code point. -/
theorem doublePoints_first_escaped {q : CodePoint} (hq : q.isCharWith standsForItself = false)
    (pending : List Char) :
    doublePoints l true pending (q :: qs) p =
      doublePoints l false [] qs ((p.put pending.reverse).put (escaped q)) := by
  rw [doublePoints, ← put_append]
  exact if_neg (by simp [hq])

/-- The page behind the end of a line. -/
theorem breakDouble_eq (hfresh : p.fresh = false) (pending : List Char) (next : Char) :
    p.breakDouble l pending next =
      (((p.put pending.reverse).lineDown l.indent).insideText).put
        (if next = ' ' then ['\\'] else []) := by
  have hindent := indent_eq_linesDown (p := (p.put pending.reverse).put ['\\']) (n := l.indent)
    (.inl hfresh)
  rw [breakDouble, put_append, hindent]
  simp only [beq_iff_eq]
  split <;> rfl

/-- A new line goes on at its indentation. -/
theorem lineDown_column (n : Nat) (p : Page) : (p.lineDown n).column = n :=
  linesDown_column (by simp) _

/-- Where a line is broken, the next one goes on at its indentation, or behind the backslash that a
blank needs. -/
theorem breakDouble_column (hfresh : p.fresh = false) (pending : List Char) (next : Char) :
    (p.breakDouble l pending next).column = l.indent + if next = ' ' then 1 else 0 := by
  rw [breakDouble_eq hfresh, put_column, insideText_column, lineDown_column]
  split <;> rfl

/-- Inside a text no line is fresh, also behind a break. -/
theorem breakDouble_fresh (hfresh : p.fresh = false) (pending : List Char) (next : Char) :
    (p.breakDouble l pending next).fresh = false := by
  rw [breakDouble_eq hfresh]
  rfl

/-- The line ends with a backslash. -/
theorem backslash_le_breakDouble (hfresh : p.fresh = false) (pending : List Char) (next : Char) :
    (p.put pending.reverse).put ['\\'] ≤ p.breakDouble l pending next := by
  have hdown : (p.put pending.reverse).put ['\\'] ≤ (p.put pending.reverse).lineDown l.indent :=
    le_linesDown ..
  rw [breakDouble_eq hfresh]
  exact hdown.trans ((le_insideText _).trans (le_put ..))

/-! ### What goes on -/

/-- What is read from a page on, and that it begins on the line of the page. -/
structure Goes (e p : Page) (qs ps : List CodePoint) (c' : Cursor) : Prop where
  /-- It is read. -/
  reads : Reads true '"' (e.place p) ps c'
  /-- Blanks are followed by a character of the line. -/
  unbroken : Unbroken (e.rest p)
  /-- It begins with no blank unless the text does. -/
  head : qs.head? ≠ some (.char ' ') → ∀ ch ∈ (e.rest p).head?, endsToken ch = false

namespace Goes

/-- A character that stands for itself is read, and begins on the line of the page. -/
theorem self {c : Char} (h : Goes e (p.put [c]) qs ps c') (hc : standsForItself c = true)
    (hput : p.put [c] ≤ e) : Goes e p (.char c :: qs) (.char c :: ps) c' := by
  have hrest : e.rest p = c :: _ := rest_put hput
  by_cases hblank : c = ' '
  · subst hblank
    refine ⟨?_, hrest ▸ h.unbroken.cons_blank, fun hne => absurd rfl hne⟩
    exact .blank hrest h.unbroken (by decide) ((place_next_put hput rfl).symm ▸ h.reads)
  · have hends := (of_standsForItself hc).2.2.2 hblank
    obtain ⟨htab, -, hbreak, hend⟩ := of_endsToken hends
    exact ⟨reads_self hc hblank hput h.reads,
      hrest ▸ .of_head hblank htab (by simp [endsLine, hbreak, hend]),
      fun _ => head_of_put hput hends⟩

/-- Whatever begins with a backslash begins on its line. -/
theorem backslash (hput : p.put ['\\'] ≤ e) (h : Reads true '"' (e.place p) ps c') :
    Goes e p qs ps c' := by
  have hrest : e.rest p = '\\' :: _ := rest_put hput
  exact ⟨h, hrest ▸ .of_head (by decide) (by decide) (by decide), fun _ => head_of_put hput rfl⟩

/-- The quote behind the text. -/
theorem close (h : p.put ['"'] ≤ e) : Goes e p [] [] (e.place (p.put ['"'])) := by
  have hrest : e.rest p = '"' :: _ := rest_put h
  have hstop : ReadsRun true (e.place p) [] (e.place p) :=
    .stop hrest (by decide) (by simp) (by simp) (by simp)
  have hclose : Reads true '"' _ _ _ := .close hstop (Cursor.peek_of_rest hrest)
  rw [place_next_put h rfl] at hclose
  exact ⟨hclose, hrest ▸ .of_head (by decide) (by decide) (by decide),
    fun _ => head_of_put h (by decide)⟩

end Goes

/-- Code points are read, whatever is still to be written of their line. -/
def ReadsPoints (e : Page) (l : Layout) (qs : List CodePoint) : Prop :=
  ∀ (pending : List Char) (p : Page), p.fresh = false →
    (l.isDeep = true → l.indent ≤ p.column + pending.length) →
    (doublePoints l false pending qs p).put ['"'] ≤ e →
    Goes e (p.put pending.reverse) qs (readPoints l false qs)
      (e.place ((doublePoints l false pending qs p).put ['"']))

/-- Code points are read behind an escape. -/
def ReadsBehindEscape (e : Page) (l : Layout) (qs : List CodePoint) : Prop :=
  ∀ p : Page, p.fresh = false → (l.isDeep = true → l.indent + 2 ≤ p.column) →
    (doublePoints l false [] qs (p.behindEscape l qs)).put ['"'] ≤ e →
    Reads true '"' (e.place p) (readPoints l true qs)
      (e.place ((doublePoints l false [] qs (p.behindEscape l qs)).put ['"']))

/-- At the end of a text the closing quote is read. -/
theorem readsPoints_nil : ReadsPoints e l [] := by
  intro pending p _ _ h
  rw [readPoints_nil]
  exact .close h

/-- The same behind an escape. -/
theorem readsBehindEscape_nil : ReadsBehindEscape e l [] := by
  intro p _ _ h
  rw [readPoints_nil]
  exact (Goes.close h).reads

namespace ReadsPoints

variable {pending : List Char} {c : Char} {q : CodePoint}

/-- A character before which a line ends. -/
theorem reads_broken (hqs : ReadsPoints e l qs) (hl : 0 < l.indent)
    (hc : standsForItself c = true) (hfresh : p.fresh = false)
    (h : (doublePoints l false [c] qs (p.breakDouble l pending c)).put ['"'] ≤ e) :
    Reads true '"' (e.place (p.put pending.reverse)) (.char c :: readPoints l false qs)
      (e.place ((doublePoints l false [c] qs (p.breakDouble l pending c)).put ['"'])) := by
  have hgoes := hqs [c] _ (breakDouble_fresh hfresh pending c) (fun _ => by
    rw [breakDouble_column hfresh]
    omega) h
  rw [breakDouble_eq hfresh] at h hgoes ⊢
  by_cases hblank : c = ' '
  · subst hblank
    rw [if_pos rfl] at h hgoes ⊢
    exact reads_lineDown_blank hl (le_of_doublePoints h) hgoes.reads
  · rw [if_neg hblank] at h hgoes ⊢
    exact reads_lineDown_self hl hc hblank (le_of_doublePoints h) hgoes.reads

/-- A character that stands for itself. -/
theorem cons_char (hqs : ReadsPoints e l qs) (hl : 0 < l.indent) (hc : standsForItself c = true) :
    ReadsPoints e l (.char c :: qs) := by
  intro pending p hfresh hdeep h
  have hread : readPoints l false (.char c :: qs) = .char c :: readPoints l false qs := by
    rw [readPoints_cons, if_neg (by simp), CodePoint.isCharWith, hc]
    rfl
  rw [hread]
  rw [doublePoints_char hc] at h ⊢
  split at h
  · next hbreak =>
    rw [if_pos hbreak]
    have hline := (backslash_le_breakDouble hfresh pending c).trans
      ((le_put [c] _).trans (le_of_doublePoints h))
    exact .backslash hline (hqs.reads_broken hl hc hfresh h)
  · next hbreak =>
    rw [if_neg hbreak]
    have hgoes := hqs (c :: pending) p hfresh (fun hd => by
      have := hdeep hd
      rw [List.length_cons]
      omega) h
    rw [List.reverse_cons, put_append] at hgoes
    have hput : (p.put pending.reverse).put [c] ≤ e :=
      (put_append pending.reverse [c] p).ge.trans (List.reverse_cons ▸ le_of_doublePoints h)
    exact hgoes.self hc hput

/-- An escape. -/
theorem cons_escaped (hqs : ReadsBehindEscape e l qs)
    (hq : q.isCharWith standsForItself = false) : ReadsPoints e l (q :: qs) := by
  intro pending p hfresh hdeep h
  have hread : readPoints l false (q :: qs) = q :: readPoints l true qs := by
    rw [readPoints_cons, if_neg (by simp), hq]
    rfl
  rw [hread]
  rw [doublePoints_escaped hq] at h ⊢
  have hlength : 2 ≤ (escaped q).length := by
    obtain ⟨d, ds, hds⟩ := exists_escaped_eq q
    simp [hds]
  have hreads := hqs ((p.put pending.reverse).put (escaped q)) hfresh (fun hd => by
    have := hdeep hd
    simp only [put_column, List.length_reverse]
    omega) h
  have hput : (p.put pending.reverse).put (escaped q) ≤ e :=
    (le_behindEscape ..).trans (le_of_doublePoints h)
  exact .backslash ((put_backslash_le q).trans hput) (reads_escaped q hput hreads)

/-- A blank before which a line ends behind an escape.  If all lines are too long from their start,
the next one ends there too. -/
theorem reads_blankBehindEscape (hqs : ReadsPoints e l qs) (hl : 0 < l.indent)
    (hfresh : p.fresh = false)
    (h : (doublePoints l false [] (.char ' ' :: qs) (p.breakDouble l [] ' ')).put ['"'] ≤ e) :
    Reads true '"' (e.place p) (readPoints l true (.char ' ' :: qs))
      (e.place ((doublePoints l false [] (.char ' ' :: qs) (p.breakDouble l [] ' ')).put
        ['"'])) := by
  have hagain : (!false && !qs.isEmpty && l.split && (' ' == ' ' || ([] : List Char).isEmpty) &&
      decide (width < (p.breakDouble l [] ' ').column + ([] : List Char).length)) =
        (l.isDeep && (true && CodePoint.char ' ' == .char ' ' && !qs.isEmpty)) := by
    have hwidth : (width < l.indent + 1 + ([] : List Char).length) = (width ≤ l.indent) :=
      propext Nat.lt_succ_iff
    rw [breakDouble_column hfresh, Layout.isDeep, if_pos rfl]
    simp only [hwidth]
    cases qs.isEmpty <;> simp
  rw [readPoints_cons]
  rw [doublePoints_char rfl, hagain] at h ⊢
  split at h
  · next hdeep =>
    rw [if_pos hdeep, if_pos hdeep]
    have hfresh' := breakDouble_fresh (l := l) hfresh [] ' '
    have hgoes := hqs [' '] _ (breakDouble_fresh hfresh' [] ' ') (fun _ => by
      rw [breakDouble_column hfresh']
      omega) h
    rw [breakDouble_eq hfresh', breakDouble_eq hfresh, if_pos rfl] at h hgoes ⊢
    exact reads_lineDown_twice hl (le_of_doublePoints h) hgoes.reads
  · next hdeep =>
    rw [if_neg hdeep, if_neg hdeep]
    exact hqs.reads_broken hl rfl hfresh h

/-- Another code point before which a line ends behind an escape. -/
theorem reads_behindEscape (hqs : ReadsPoints e l (q :: qs)) (hl : 0 < l.indent)
    (hfresh : p.fresh = false) (hblank : q ≠ .char ' ')
    (h : (doublePoints l false [] (q :: qs) (p.breakDouble l [] q.toChar)).put ['"'] ≤ e) :
    Reads true '"' (e.place p) (readPoints l true (q :: qs))
      (e.place ((doublePoints l false [] (q :: qs) (p.breakDouble l [] q.toChar)).put
        ['"'])) := by
  have hread : readPoints l true (q :: qs) = readPoints l false (q :: qs) := by
    rw [readPoints_cons, readPoints_cons, if_neg (by simp [hblank]), if_neg (by simp)]
  have hchar : q.toChar ≠ ' ' := by
    cases q with
    | char c => exact fun hc => hblank (congrArg CodePoint.char hc)
    | half n => exact (by decide : '\ufffd' ≠ ' ')
  have hgoes := hqs [] _ (breakDouble_fresh hfresh [] q.toChar) (fun _ => by
    rw [breakDouble_column hfresh]
    omega) h
  rw [breakDouble_eq hfresh, if_neg hchar] at h hgoes ⊢
  rw [hread]
  exact reads_lineDown hl (le_of_doublePoints h) (hgoes.head (by simpa using hblank)) hgoes.reads

end ReadsPoints

/-- Behind an escape a line may end, and only where all lines are too long from their start does
this make a difference. -/
theorem readsBehindEscape_cons {q : CodePoint} (hl : 0 < l.indent) (hqs : ReadsPoints e l qs)
    (hpoint : ReadsPoints e l (q :: qs)) : ReadsBehindEscape e l (q :: qs) := by
  intro p hfresh hdeep h
  rw [behindEscape, List.headD_cons, List.isEmpty_cons, Bool.not_false, Bool.true_and] at h ⊢
  split at h
  · next hline =>
    rw [if_pos hline]
    by_cases hblank : q = .char ' '
    · subst hblank
      exact hqs.reads_blankBehindEscape hl hfresh h
    · exact hpoint.reads_behindEscape hl hfresh hblank h
  · next hline =>
    rw [if_neg hline]
    have hshallow : l.isDeep = false := by
      rw [← Bool.not_eq_true]
      intro hd
      have := hdeep hd
      rw [Layout.isDeep, Bool.and_eq_true, decide_eq_true_eq] at hd
      refine hline ?_
      rw [hd.1, Bool.true_and, decide_eq_true_eq]
      omega
    have hgoes := hpoint [] p hfresh (by simp [hshallow]) h
    rw [readPoints_of_not_isDeep hshallow] at hgoes ⊢
    exact hgoes.reads

/-- **What is written between double quotes is read code point by code point.** -/
theorem reads_doublePoints (hl : 0 < l.indent) (qs : List CodePoint) :
    ReadsPoints e l qs ∧ ReadsBehindEscape e l qs := by
  induction qs with
  | nil => exact ⟨readsPoints_nil, readsBehindEscape_nil⟩
  | cons q qs ih =>
    have hpoint : ReadsPoints e l (q :: qs) := by
      cases hq : q.isCharWith standsForItself with
      | true =>
        cases q with
        | char c => exact ih.1.cons_char hl hq
        | half n => cases hq
      | false => exact .cons_escaped ih.2 hq
    exact ⟨hpoint, readsBehindEscape_cons hl ih.1 hpoint⟩

/-! ### Whole texts -/

/-- What the code points of a text between double quotes are read as. -/
def readDouble (l : Layout) : List CodePoint → List CodePoint
  | [] => []
  | q :: qs => q :: readPoints l false qs

/-- Whether an escape stands before a blank that is not the last of code points.  `escape` tells
whether an escape stands before them. -/
def hasEscapedBlank (escape : Bool) : List CodePoint → Bool
  | [] => false
  | q :: qs => escape && q == .char ' ' && !qs.isEmpty ||
      hasEscapedBlank (!q.isCharWith standsForItself) qs

/-- Broken lines add blanks and take away nothing. -/
theorem length_le_deepPoints (escape : Bool) (qs : List CodePoint) :
    qs.length ≤ (deepPoints escape qs).length := by
  induction qs generalizing escape with
  | nil => exact Nat.le_refl _
  | cons q qs ih =>
    have := ih (!q.isCharWith standsForItself)
    rw [deepPoints, List.length_append, List.length_cons]
    split <;> simp <;> omega

/-- Where all lines are too long, code points are read as they were written exactly if no escape
stands before a blank. -/
theorem deepPoints_eq_self {escape : Bool} {qs : List CodePoint} :
    deepPoints escape qs = qs ↔ hasEscapedBlank escape qs = false := by
  induction qs generalizing escape with
  | nil => exact iff_of_true rfl rfl
  | cons q qs ih =>
    rw [deepPoints, hasEscapedBlank]
    cases hq : escape && q == .char ' ' && !qs.isEmpty with
    | true =>
      refine iff_of_false (fun h => ?_) (by simp)
      have hlength := congrArg List.length h
      have := length_le_deepPoints (!q.isCharWith standsForItself) qs
      simp at hlength
      omega
    | false => simpa using ih

/-- **A text between double quotes is read as it is exactly if its lines are not too long from their
start, or no escape behind its first code point stands before a blank that is not the last.** -/
theorem readDouble_eq_self {qs : List CodePoint} :
    readDouble l qs = qs ↔ (l.isDeep = true → hasEscapedBlank false qs.tail = false) := by
  cases qs with
  | nil => exact iff_of_true rfl fun _ => rfl
  | cons q qs =>
    rw [readDouble, List.cons.injEq, readPoints, List.tail_cons]
    split
    · next hdeep => simp [hdeep, deepPoints_eq_self]
    · next hdeep => simp [hdeep]

/-- What stands between double quotes is read. -/
theorem reads_double (hl : 0 < l.indent) (qs : List CodePoint) (hfresh : p.fresh = false)
    (hdeep : l.isDeep = true → l.indent ≤ p.column)
    (h : (doublePoints l true [] qs p).put ['"'] ≤ e) :
    Reads true '"' (e.place p) (readDouble l qs)
      (e.place ((doublePoints l true [] qs p).put ['"'])) := by
  cases qs with
  | nil => exact (Goes.close h).reads
  | cons q qs =>
    cases hq : q.isCharWith standsForItself with
    | true =>
      cases q with
      | half n => cases hq
      | char c =>
        rw [doublePoints_char hq, if_neg (by simp)] at h ⊢
        have hgoes := (reads_doublePoints hl qs).1 [c] p hfresh
          (fun hd => Nat.le_succ_of_le (hdeep hd)) h
        exact (hgoes.self hq (le_of_doublePoints h)).reads
    | false =>
      rw [doublePoints_first_escaped hq] at h ⊢
      have hgoes := (reads_doublePoints hl qs).1 [] (p.put (escaped q)) hfresh
        (fun hd => Nat.le_trans (hdeep hd) (Nat.le_add_right ..)) h
      exact reads_escaped q (le_of_doublePoints h) hgoes.reads

/-- **The scalar that is written between double quotes.** -/
theorem quotedScalar_double (hl : 0 < l.indent) (t : Text)
    (hdeep : l.isDeep = true → l.indent ≤ p.column + 1) (h : p.double l t ≤ e) :
    (e.place p.lead).peek = '"' ∧
      quotedScalar true (e.place p.lead) =
        .ok (readDouble l t.points, e.place (p.double l t)) := by
  have hopen : p.lead.put ['"'] ≤ e :=
    (lead_put_le ..).trans
      ((le_doublePoints l true [] t.points _).trans ((le_indicator ..).trans h))
  have hrest : (e.place p.lead).rest = '"' :: _ := rest_put hopen
  have hpeek := Cursor.peek_of_rest hrest
  have hend : e.place (p.double l t) = e.place ((doublePoints l true [] t.points
      (p.indicator ['"'] true false false)).put ['"']) := place_indicator_bare ..
  have hcolumn : p.column + 1 ≤ (p.indicator ['"'] true false false).column := by
    rw [indicator_column, put_column, lead]
    split <;> simp
  have hreads := reads_double hl t.points (p := p.indicator ['"'] true false false)
    (by simp [indicator]) (fun hd => Nat.le_trans (hdeep hd) hcolumn)
    ((put_le_indicator_bare ..).trans h)
  rw [place_indicator, ← place_next_put hopen (by decide), ← hend] at hreads
  refine ⟨hpeek, ?_⟩
  rw [quotedScalar, hpeek]
  exact hreads.quotedRest_eq _ (by have := Cursor.left_next hrest; omega)

end Page
end Yaml
end WorkflowKit
