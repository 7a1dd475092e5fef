/-
# Texts between single quotes

A text between single quotes is written part by part, and read back part by part
(`reads_singleRuns`).  A blank at which a line was broken is read as a blank.  Line ends are read as
they were, but for U+0085, which counts as a line feed: `Run.read` says what a part is read as, and
`flatMap_read_eq_self` that it is read as itself exactly if it holds no U+0085.
-/

import WorkflowKit.Proofs.Yaml.Quoted
import WorkflowKit.Proofs.Yaml.Run

namespace WorkflowKit
namespace Yaml

open Cursor (readBreak)

namespace Page

variable {p e : Page} {cs bs : List Char} {n : Nat} {l : Layout}

/-! ### Line ends -/

/-- The line ends that are written for line ends of a text. -/
def writtenBreaks (bs : List Char) : List Char := if bs.head? = some '\n' then '\n' :: bs else bs

/-- Line ends are written as at least one. -/
theorem writtenBreaks_ne_nil (h : bs ≠ []) : writtenBreaks bs ≠ [] := by
  rw [writtenBreaks]
  split
  · simp
  · exact h

/-- All that is written for line ends are line breaks. -/
theorem isWrittenBreak_of_mem_writtenBreaks (h : ∀ b ∈ bs, isWrittenBreak b = true) :
    ∀ b ∈ writtenBreaks bs, isWrittenBreak b = true := by
  rw [writtenBreaks]
  split
  · exact List.forall_mem_cons.2 ⟨rfl, h⟩
  · exact h

/-- The line ends of a text are written with the indentation behind them. -/
theorem breaks_eq_linesDown (h : bs ≠ []) (p : Page) :
    p.breaks l bs = p.linesDown (writtenBreaks bs) l.indent := by
  have hfold : (bs.foldl (fun p c => p.endLine c)
      (if bs.head? == some '\n' then p.endLine '\n' else p)) =
      (writtenBreaks bs).foldl (fun p c => p.endLine c) p := by
    rw [writtenBreaks]
    by_cases hhead : bs.head? = some '\n'
    · simp [hhead]
    · simp [hhead]
  rw [breaks, hfold, linesDown, foldl_endLine_of_ne_nil (writtenBreaks_ne_nil h), indent]
  rcases Nat.eq_zero_or_pos l.indent with hn | hn
  · simp [hn]
  · simp [hn, put]

/-! ### What parts are read as -/

/-- What line ends are read as. -/
def readBreaks (bs : List Char) : List Char :=
  match writtenBreaks bs with
  | [] => []
  | b :: bs => foldedBreaks [readBreak b] (bs.map readBreak)

/-- What a part is read as. -/
def Run.read : Run → List Char
  | breaks bs => readBreaks bs
  | r => r.chars

/-- No line end is read as U+0085. -/
theorem readBreak_ne (c : Char) : readBreak c ≠ '\x85' := by
  rw [readBreak]
  split
  · next h =>
    rintro rfl
    exact absurd h (by decide)
  · decide

/-- Any other line break of the writer is read as itself. -/
theorem readBreak_eq_self {c : Char} (h : isWrittenBreak c = true) (hc : c ≠ '\x85') :
    readBreak c = c := by
  rw [readBreak]
  simp only [isWrittenBreak, Bool.or_eq_true, beq_iff_eq] at h ⊢
  rcases h with ((rfl | rfl) | rfl) | rfl
  · rfl
  · exact absurd rfl hc
  · rfl
  · rfl

/-- So U+0085 is lost wherever it is written bare. -/
theorem ne_nextLine_of_mem_readBreaks {c : Char} (h : c ∈ readBreaks bs) : c ≠ '\x85' := by
  rw [readBreaks] at h
  split at h
  · cases h
  · next b bs _ =>
    have hmap (h : c ∈ bs.map readBreak) : c ≠ '\x85' := by
      obtain ⟨d, -, rfl⟩ := List.mem_map.1 h
      exact readBreak_ne d
    rw [foldedBreaks, List.mem_append] at h
    rcases h with h | h
    · split at h
      · rw [List.mem_singleton.1 h]
        exact readBreak_ne b
      · split at h
        · rw [List.mem_singleton.1 h]
          decide
        · cases h
    · exact hmap h

/-- **Line ends are read as they are exactly if U+0085 is not among them.** -/
theorem readBreaks_eq_self (h : ∀ b ∈ bs, isWrittenBreak b = true) :
    readBreaks bs = bs ↔ '\x85' ∉ bs := by
  constructor
  · intro heq hmem
    exact ne_nextLine_of_mem_readBreaks (heq.symm ▸ hmem) rfl
  · intro hmem
    have hself : ∀ b ∈ bs, readBreak b = b := fun b hb =>
      readBreak_eq_self (h b hb) (ne_of_mem_of_not_mem hb hmem)
    have hmap : bs.map readBreak = bs := by
      simpa using List.map_inj_left.2 hself
    cases bs with
    | nil => rfl
    | cons b bs =>
      rw [readBreaks, writtenBreaks]
      by_cases hfeed : b = '\n'
      · subst hfeed
        simp only [List.head?_cons, if_true, foldedBreaks, hmap]
        rfl
      · have htail : bs.map readBreak = bs := (List.cons.inj hmap).2
        simp [hfeed, foldedBreaks, hself b (List.mem_cons_self ..), htail]

variable {rs : List Run}

/-- Each part of a text holds only characters of its kind. -/
theorem Proper.owns_of_mem (h : Proper rs) : ∀ r ∈ rs, ∀ c ∈ r.chars, r.owns c = true := by
  induction rs with
  | nil => simp
  | cons r rs ih => exact List.forall_mem_cons.2 ⟨h.2.1, ih h.2.2.2⟩

/-- **A text is read as it is exactly if it holds no U+0085.** -/
theorem flatMap_read_eq_self (h : Proper rs) :
    rs.flatMap Run.read = runChars rs ↔ '\x85' ∉ runChars rs := by
  constructor
  · intro heq hmem
    obtain ⟨r, hr, hmem⟩ := List.mem_flatMap.1 (heq.symm ▸ hmem)
    have howns := h.owns_of_mem r hr
    cases r with
    | blanks n => exact absurd (howns _ hmem) (by simp [Run.owns])
    | breaks bs => exact ne_nextLine_of_mem_readBreaks hmem rfl
    | word ws => exact absurd (howns _ hmem) (by simp [Run.owns, isWrittenBreak])
  · intro hmem
    induction rs with
    | nil => rfl
    | cons r rs ih =>
      obtain ⟨-, howns, -, hrs⟩ := h
      rw [runChars_cons, List.mem_append, not_or] at hmem
      rw [List.flatMap_cons, runChars_cons, ih hrs hmem.2]
      cases r with
      | blanks n => rfl
      | breaks bs => exact congrArg (· ++ _) ((readBreaks_eq_self howns).2 hmem.1)
      | word ws => rfl

/-! ### Reading what is written -/

/-- A character as it is written between single quotes. -/
def quotedChar (c : Char) : List Char := if c == '\x27' then [c, c] else [c]

/-- A word is read as it was, its quotes undoubled. -/
theorem reads_word {ws : List Char} {ps : List CodePoint} {c' : Cursor}
    (hws : ∀ c ∈ ws, endsToken c = false ∧ isInline c = true)
    (h : p.put (ws.flatMap quotedChar) ≤ e)
    (hreads : Reads false '\x27' (e.place (p.put (ws.flatMap quotedChar))) ps c') :
    Reads false '\x27' (e.place p) (ws.map .char ++ ps) c' := by
  induction ws generalizing p with
  | nil => exact hreads
  | cons c ws ih =>
    rw [List.forall_mem_cons] at hws
    obtain ⟨⟨hends, hinline⟩, hws⟩ := hws
    rw [List.flatMap_cons, put_append] at h hreads
    have hmore := ih hws h hreads
    have hput : p.put (quotedChar c) ≤ e := (le_put ..).trans h
    have hrest : (e.place p).rest = quotedChar c ++ _ := rest_put hput
    rw [quotedChar] at hput hrest hmore
    by_cases hquote : c = '\x27'
    · subst hquote
      have hquotes : ∀ c ∈ ['\x27', '\x27'], isInline c = true := by
        simp [show isInline '\x27' = true from rfl]
      have hskip := place_skip_put hput hquotes
      exact .doubledQuote hrest (hskip ▸ hmore)
    · rw [if_neg (by simpa using hquote)] at hput hrest hmore
      rw [← place_next_put hput hinline] at hmore
      by_cases hother : c = '"' ∨ c = '\\'
      · exact .otherQuote hrest (by simpa using hother) hmore
      · rw [not_or] at hother
        exact .char hrest (by simp [endsQuotedRun, hquote, hother, hends]) hmore

/-- Blanks inside a line are read as they were. -/
theorem reads_blanks {double : Bool} {quote : Char} {ps : List CodePoint} {c' : Cursor}
    (h : p.put (List.replicate n ' ') ≤ e)
    (hnext : Unbroken (e.rest (p.put (List.replicate n ' '))))
    (hquote : endsToken quote = false)
    (hreads : Reads double quote (e.place (p.put (List.replicate n ' '))) ps c') :
    Reads double quote (e.place p) ((List.replicate n ' ').map .char ++ ps) c' := by
  induction n generalizing p with
  | zero => exact hreads
  | succ n ih =>
    have hput : p.put (List.replicate (n + 1) ' ') = (p.put [' ']).put (List.replicate n ' ') :=
      put_append [' '] _ p
    rw [hput] at h hnext hreads
    have hfirst : p.put [' '] ≤ e := (le_put ..).trans h
    have hmore := ih h hnext hreads
    rw [← place_next_put hfirst (by decide)] at hmore
    exact .blank (rest_put hfirst) (rest_put h ▸ hnext.blanks_append n) hquote hmore

/-! ### What stands behind parts -/

/-- Whether parts may stand between single quotes. -/
structure AllowsSingle (rs : List Run) : Prop where
  /-- They are the parts of a text. -/
  proper : Proper rs
  /-- It holds no special characters. -/
  special : ∀ c ∈ runChars rs, isSpecial c = false
  /-- No blank stands behind a line end. -/
  after : hasBreakBlank (runChars rs) = false
  /-- No blank stands before a line end. -/
  before : hasBlankBreak (runChars rs) = false

/-- Whether parts begin with a word, or there are none. -/
def BeginsWord (rs : List Run) : Prop := ∀ r ∈ rs.head?, ∃ ws, r = .word ws

namespace AllowsSingle

/-- What may stand between single quotes may do so without its first part. -/
theorem tail {r : Run} (h : AllowsSingle (r :: rs)) : AllowsSingle rs where
  proper := h.proper.2.2.2
  special c hc := h.special c (by rw [runChars_cons]; exact List.mem_append_right _ hc)
  after := hasPair_append_right (runChars_cons r rs ▸ h.after)
  before := hasPair_append_right (runChars_cons r rs ▸ h.before)

/-- The characters of a word end no word. -/
theorem inside {ws : List Char} (h : AllowsSingle (.word ws :: rs)) :
    ∀ c ∈ ws, endsToken c = false ∧ isInline c = true := by
  intro c hc
  obtain ⟨hblank, hbreak⟩ := Bool.and_eq_true_iff.1 (h.proper.2.1 c hc)
  refine endsToken_of_word (h.special c ?_) (by simpa using hblank) (by simpa using hbreak)
  rw [runChars_cons]
  exact List.mem_append_left _ hc

/-- Blanks are followed by a word or by nothing. -/
theorem beginsWord_of_blanks (h : AllowsSingle (.blanks n :: rs)) : BeginsWord rs := by
  intro r hr
  obtain ⟨rs', rfl⟩ := List.head?_eq_some_iff.1 hr
  obtain ⟨⟨hne, -, hhead, hr, howns, -, -⟩, -, -, hbefore⟩ := h
  obtain ⟨m, rfl⟩ := Nat.exists_eq_add_one_of_ne_zero (n := n) (by rintro rfl; exact hne rfl)
  obtain ⟨c, cs, hcs⟩ := List.exists_cons_of_ne_nil hr
  have hc := howns c (hcs ▸ List.mem_cons_self ..)
  simp only [runChars_cons, hcs] at hhead hbefore
  cases r with
  | blanks n => exact absurd (hhead c rfl) (by simpa using hc)
  | breaks bs =>
    rw [Run.chars, List.replicate_succ', List.append_assoc] at hbefore
    exact absurd (not_of_hasPair hbefore) (by simpa using hc)
  | word ws => exact ⟨ws, rfl⟩

/-- Line ends are followed by a word or by nothing. -/
theorem beginsWord_of_breaks (h : AllowsSingle (.breaks bs :: rs)) : BeginsWord rs := by
  intro r hr
  obtain ⟨rs', rfl⟩ := List.head?_eq_some_iff.1 hr
  obtain ⟨⟨hne, hbs, hhead, hr, howns, -, -⟩, -, hafter, -⟩ := h
  obtain ⟨ds, b, rfl⟩ := List.eq_nil_or_concat bs |>.resolve_left hne
  obtain ⟨c, cs, hcs⟩ := List.exists_cons_of_ne_nil hr
  have hc := howns c (hcs ▸ List.mem_cons_self ..)
  have hb := hbs b (by simp [Run.chars])
  simp only [runChars_cons, hcs] at hhead hafter
  cases r with
  | blanks n =>
    have hb' : isWrittenBreak b = true := hb
    rw [Run.chars, List.concat_eq_append, List.append_assoc] at hafter
    exact absurd (not_of_hasPair hafter) (by simp [eq_of_beq hc, hb'])
  | breaks bs => exact absurd (hhead c rfl) (by simpa [Run.owns] using hc)
  | word ws => exact ⟨ws, rfl⟩

/-- What is written for parts that begin with a word begins with a character that ends no word. -/
theorem exists_head {first : Bool} (h : AllowsSingle rs) (hword : BeginsWord rs)
    (hle : (singleRuns l first rs p).put ['\x27'] ≤ e) :
    ∃ ch cs, e.rest p = ch :: cs ∧ endsToken ch = false := by
  cases rs with
  | nil => exact ⟨_, _, rest_put hle, by decide⟩
  | cons r rs =>
    obtain ⟨ws, rfl⟩ := hword r rfl
    have hput : p.put (ws.flatMap quotedChar) ≤ e :=
      (le_singleRuns l false rs _).trans ((le_put _ _).trans hle)
    obtain ⟨c, ws, rfl⟩ := List.exists_cons_of_ne_nil (show ws ≠ [] from h.proper.1)
    obtain ⟨cs, hcs⟩ : ∃ cs, quotedChar c = c :: cs := by
      rw [quotedChar]
      split <;> exact ⟨_, rfl⟩
    rw [rest_put hput, List.flatMap_cons, hcs]
    exact ⟨c, _, rfl, (h.inside c (List.mem_cons_self ..)).1⟩

/-- Where a word comes first the next character ends no token. -/
theorem head_endsToken {first : Bool} (h : AllowsSingle rs) (hword : BeginsWord rs)
    (hle : (singleRuns l first rs p).put ['\x27'] ≤ e) :
    ∀ ch ∈ (e.rest p).head?, endsToken ch = false := by
  obtain ⟨ch, cs, hcs, hch⟩ := h.exists_head hword hle
  simp [hcs, hch]

end AllowsSingle

/-! ### Parts between single quotes -/

/-- Whether a line holds more than an indentation where parts are written.  Behind an indentation
alone they do not begin with blanks, so that no line ends there. -/
def HoldsText (l : Layout) (rs : List Run) (p : Page) : Prop :=
  p.fresh = false ∨ l.indent ≤ p.column ∧ (p.column = l.indent → BeginsWord rs)

/-- A line that blanks are written on holds more than its indentation. -/
theorem HoldsText.lt_column (h : HoldsText l (.blanks n :: rs) p) :
    p.fresh = false ∨ l.indent < p.column := by
  refine h.imp_right fun h => Nat.lt_of_le_of_ne h.1 fun heq => ?_
  obtain ⟨ws, hws⟩ := h.2 heq.symm _ rfl
  cases hws

/-- A line to which text is added holds text, and one that is left as it is goes on with a word. -/
theorem HoldsText.put {r : Run} {cs : List Char} (h : HoldsText l (r :: rs) p)
    (hcs : cs = [] → BeginsWord rs) : HoldsText l rs (p.put cs) := by
  refine h.imp_right fun h => ⟨Nat.le_trans h.1 (by simp), fun heq => hcs ?_⟩
  rw [put_column] at heq
  exact List.length_eq_zero_iff.1 (by omega)

/-- On a new line a word comes first. -/
theorem holdsText_linesDown (hbs : bs ≠ []) (hword : BeginsWord rs) (p : Page) :
    HoldsText l rs (p.linesDown bs l.indent) :=
  .inr ⟨Nat.le_of_eq (linesDown_column hbs p).symm, fun _ => hword⟩

/-- Whether parts that are written between single quotes are read part by part. -/
def ReadsRuns (e : Page) (l : Layout) (rs : List Run) : Prop :=
  ∀ (first : Bool) (p : Page), HoldsText l rs p → (singleRuns l first rs p).put ['\x27'] ≤ e →
    (∀ c ∈ (e.rest ((singleRuns l first rs p).put ['\x27'])).head?, c ≠ '\x27') →
    Reads false '\x27' (e.place p) ((rs.flatMap Run.read).map .char)
      (e.place ((singleRuns l first rs p).put ['\x27']))

/-- Behind the last part stands the closing quote. -/
theorem readsRuns_nil : ReadsRuns e l [] := by
  intro first p _ h hclose
  rw [singleRuns] at h hclose ⊢
  have hrest : (e.place p).rest = '\x27' :: _ := rest_put h
  have hstop : ReadsRun false (e.place p) [] (e.place p) := by
    refine .stop hrest (by decide) (fun _ => ⟨rfl, ?_⟩) (by simp) (by simp)
    have hsecond : (e.place p).peekAt 1 = (e.place (p.put ['\x27'])).peek := by
      rw [Cursor.peekAt, Cursor.peek, hrest]
      rfl
    rw [hsecond, ← beq_eq_false_iff_ne]
    exact Cursor.of_peek (f := (· == '\x27')) (fun c hc => by simpa using hclose c hc) rfl
  have hreads : Reads false '\x27' _ _ _ := .close hstop (Cursor.peek_of_rest hrest)
  rwa [place_next_put h (by decide)] at hreads

namespace ReadsRuns

/-- Blanks, or the end of a line in the place of one. -/
theorem cons_blanks (hrs : ReadsRuns e l rs) (hl : 0 < l.indent)
    (hallows : AllowsSingle (.blanks n :: rs)) : ReadsRuns e l (.blanks n :: rs) := by
  intro first p htext h hclose
  have hword := hallows.beginsWord_of_blanks
  rw [singleRuns] at h hclose ⊢
  rw [List.flatMap_cons, List.map_append]
  by_cases hfold : (n == 1 && width < p.column && l.split && !first && !rs.isEmpty) = true
  · simp only [if_pos hfold] at h hclose ⊢
    obtain rfl : n = 1 := by
      simp only [Bool.and_eq_true, beq_iff_eq] at hfold
      exact hfold.1.1.1.1
    rw [indent_eq_linesDown htext.lt_column] at h hclose ⊢
    have hreads := hrs false _ (holdsText_linesDown (by simp) hword p) h hclose
    have hle : p.linesDown ['\n'] l.indent ≤ e := (le_singleRuns ..).trans ((le_put ..).trans h)
    exact Reads.lines hl rfl (by simp) hle (hallows.tail.head_endsToken hword h) (by decide) hreads
  · simp only [if_neg hfold] at h hclose ⊢
    have hreads := hrs false _ (htext.put fun _ => hword) h hclose
    have hle : p.put (List.replicate n ' ') ≤ e := (le_singleRuns ..).trans ((le_put ..).trans h)
    obtain ⟨ch, cs, hcs, hch⟩ := hallows.tail.exists_head hword h
    obtain ⟨htab, hblank, hbreak, hend⟩ := of_endsToken hch
    have hunbroken : Unbroken (e.rest (p.put (List.replicate n ' '))) :=
      hcs ▸ .of_head hblank htab (by simp [endsLine, hbreak, hend])
    exact reads_blanks hle hunbroken (by decide) hreads

/-- Line ends. -/
theorem cons_breaks (hrs : ReadsRuns e l rs) (hl : 0 < l.indent)
    (hallows : AllowsSingle (.breaks bs :: rs)) : ReadsRuns e l (.breaks bs :: rs) := by
  intro first p _ h hclose
  have hne : bs ≠ [] := hallows.proper.1
  have hword := hallows.beginsWord_of_breaks
  have hwritten : ∀ b ∈ writtenBreaks bs, isWrittenBreak b = true :=
    isWrittenBreak_of_mem_writtenBreaks hallows.proper.2.1
  rw [singleRuns, breaks_eq_linesDown hne] at h hclose ⊢
  have hreads := hrs false _ (holdsText_linesDown (writtenBreaks_ne_nil hne) hword p) h hclose
  have hle : p.linesDown (writtenBreaks bs) l.indent ≤ e :=
    (le_singleRuns ..).trans ((le_put ..).trans h)
  have hhead := hallows.tail.head_endsToken hword h
  obtain ⟨b, bs', hbs⟩ := List.exists_cons_of_ne_nil (writtenBreaks_ne_nil hne)
  rw [List.flatMap_cons, List.map_append, Run.read, readBreaks, hbs]
  rw [hbs] at hwritten hle hhead hreads
  rw [List.forall_mem_cons] at hwritten
  exact Reads.lines hl hwritten.1 hwritten.2 hle hhead (by decide) hreads

/-- A word. -/
theorem cons_word {ws : List Char} (hrs : ReadsRuns e l rs)
    (hallows : AllowsSingle (.word ws :: rs)) : ReadsRuns e l (.word ws :: rs) := by
  intro first p htext h hclose
  have hne : ws.flatMap quotedChar ≠ [] := by
    obtain ⟨c, cs, rfl⟩ := List.exists_cons_of_ne_nil (show ws ≠ [] from hallows.proper.1)
    rw [List.flatMap_cons, quotedChar]
    split <;> simp
  rw [singleRuns] at h hclose ⊢
  have hreads := hrs false (p.put (ws.flatMap quotedChar)) (htext.put fun hnil => absurd hnil hne) h
    hclose
  rw [List.flatMap_cons, List.map_append]
  exact reads_word hallows.inside ((le_singleRuns ..).trans ((le_put ..).trans h)) hreads

end ReadsRuns

/-- **What is written between single quotes is read part by part.** -/
theorem reads_singleRuns (hl : 0 < l.indent) (h : AllowsSingle rs) : ReadsRuns e l rs := by
  induction rs with
  | nil => exact readsRuns_nil
  | cons r rs ih =>
    cases r with
    | blanks n => exact (ih h.tail).cons_blanks hl h
    | breaks bs => exact (ih h.tail).cons_breaks hl h
    | word ws => exact (ih h.tail).cons_word h

/-! ### Whole texts -/

/-- What a text between single quotes is read as. -/
def readSingle (cs : List Char) : List Char := (runs cs).flatMap Run.read

/-- **A text between single quotes is read as it is exactly if it holds no U+0085.** -/
theorem readSingle_eq_self : readSingle cs = cs ↔ '\x85' ∉ cs := by
  obtain ⟨hproper, hchars⟩ := proper_runs cs
  have h := flatMap_read_eq_self hproper
  rwa [hchars] at h

/-- **The scalar that is written between single quotes.** -/
theorem quotedScalar_single (hl : 0 < l.indent) (hcs : allowsSingle cs = true)
    (h : p.single l cs ≤ e) (hclose : ∀ c ∈ (e.rest (p.single l cs)).head?, c ≠ '\x27') :
    (e.place p.lead).peek = '\x27' ∧
      quotedScalar false (e.place p.lead) =
        .ok ((readSingle cs).map .char, e.place (p.single l cs)) := by
  simp only [allowsSingle, Bool.and_eq_true, Bool.not_eq_true', List.any_eq_false] at hcs
  obtain ⟨⟨hafter, hbefore⟩, hspecial⟩ := hcs
  obtain ⟨hproper, hchars⟩ := proper_runs cs
  rw [← hchars] at hafter hbefore hspecial
  have hallows : AllowsSingle (runs cs) := ⟨hproper, by simpa using hspecial, hafter, hbefore⟩
  have hopen : p.lead.put ['\x27'] ≤ e :=
    (lead_put_le ..).trans ((le_singleRuns ..).trans ((le_indicator ..).trans h))
  have hrest : (e.place p.lead).rest = '\x27' :: _ := rest_put hopen
  have hpeek := Cursor.peek_of_rest hrest
  have hend : e.place (p.single l cs) = e.place ((singleRuns l true (runs cs)
      (p.indicator ['\x27'] true false false)).put ['\x27']) := place_indicator_bare ..
  have hreads := reads_singleRuns hl hallows true (p.indicator ['\x27'] true false false)
    (.inl (by simp [indicator])) ((put_le_indicator_bare ..).trans h)
    (by simpa only [← place_rest, hend] using hclose)
  rw [place_indicator, ← place_next_put hopen (by decide), ← hend] at hreads
  refine ⟨hpeek, ?_⟩
  rw [quotedScalar, hpeek]
  exact hreads.quotedRest_eq _ (by have := Cursor.left_next hrest; omega)

end Page
end Yaml
end WorkflowKit
