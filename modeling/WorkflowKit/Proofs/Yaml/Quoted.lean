/-
# Reading between quotes

What stands between quotes is read run by run: a run of characters and escapes, then blanks or line
ends, then the next run.  `ReadsRun` and `Reads` say what a run and what the whole rest is read as,
for every amount of fuel that exceeds the characters that are left.  So a text between quotes is put
together from its end: a character, an escape or a gap may be added in front of what is read
already.
-/

import WorkflowKit.Proofs.Yaml.Cursor
import WorkflowKit.Proofs.Yaml.Place
import WorkflowKit.Yaml.Token.Scalar

namespace WorkflowKit
namespace Yaml

variable {double : Bool} {quote ch : Char} {c c₁ c₂ c' : Cursor} {cs : List Char}
  {ps qs es : List CodePoint}

namespace Cursor

/-- The end of a line as it counts in a value. -/
def readBreak (c : Char) : Char := if c == '\u2028' || c == '\u2029' then c else '\n'

/-- A line break is passed over as a whole, and counts as a line feed or as itself. -/
theorem lineBreak_of_rest (h : c.rest = ch :: cs) (hch : isWrittenBreak ch = true) :
    c.lineBreak = ([readBreak ch], c.next) := by
  have hreturn := ne_return_of_isWrittenBreak hch
  rw [lineBreak, h]
  split
  · next heq => exact absurd (List.cons.inj heq).1 hreturn
  · next ch' ds _ heq =>
    obtain ⟨rfl, rfl⟩ := List.cons.inj heq
    rw [readBreak]
    split
    · rfl
    · rw [if_pos (isBreak_of_isWrittenBreak hch)]
  · next heq => cases heq

/-- A document separator begins with a hyphen or a point. -/
theorem not_atSeparator (h : c.rest = ch :: cs) (hhyphen : ch ≠ '-') (hpoint : ch ≠ '.') :
    c.atSeparator = false := by
  rw [atSeparator, h, Bool.and_eq_false_iff]
  exact .inl (by simp [hhyphen, hpoint])

end Cursor

/-- Two steps of reading succeed exactly if the second one does where the first one leaves off. -/
theorem bind_eq_ok {α β : Type} {x : Except Fault α} {f : α → Except Fault β} {b : β} :
    (x >>= f) = .ok b ↔ ∃ a, x = .ok a ∧ f a = .ok b := by
  cases x <;> simp [bind, Except.bind]

/-- A character that ends no token is no blank, no tab, no line end and no end of the text. -/
theorem of_endsToken (h : endsToken ch = false) :
    ch ≠ '\t' ∧ ch ≠ ' ' ∧ isBreak ch = false ∧ ch ≠ endMark := by
  simpa [endsToken, endsWord, endsLine] using h

/-! ### Runs -/

/-- Whether a run from a place on is read as code points up to another place. -/
def ReadsRun (double : Bool) (c : Cursor) (ps : List CodePoint) (c' : Cursor) : Prop :=
  c'.left ≤ c.left ∧ ∀ fuel, c.left < fuel → quotedRun double fuel c = .ok (ps, c')

namespace ReadsRun

/-- A run ends before a blank, the end of a line and the closing quote. -/
theorem stop (hrest : c.rest = ch :: cs) (hch : endsQuotedRun ch = true)
    (hquote : ch = '\x27' → double = false ∧ c.peekAt 1 ≠ '\x27')
    (hdouble : ch = '"' → double = true)
    (hescape : ch ≠ '\\') : ReadsRun double c [] c := by
  refine ⟨Nat.le_refl _, fun fuel hfuel => ?_⟩
  obtain ⟨fuel, rfl⟩ := Nat.exists_eq_add_one_of_ne_zero (Nat.ne_of_gt (Nat.zero_lt_of_lt hfuel))
  have htake : c.takeWhile (fun ch => !endsQuotedRun ch) = ([], c) :=
    Cursor.takeWhile_of_not (by simp [hrest, hch])
  rw [quotedRun, htake]
  simp only [Cursor.peek_of_rest hrest, List.map_nil]
  rw [if_neg, if_neg, if_neg]
  · rfl
  · simp [hescape]
  · cases double with
    | true => simpa using fun h => (hquote h).1
    | false => simpa [hescape] using fun h => hdouble h
  · intro h
    simp only [Bool.and_eq_true, beq_iff_eq] at h
    exact (hquote h.1.2).2 h.2

/-- A character in front of a run. -/
theorem char (hrest : c.rest = ch :: cs) (hch : endsQuotedRun ch = false)
    (h : ReadsRun double c.next ps c') : ReadsRun double c (.char ch :: ps) c' := by
  have hleft := Cursor.left_next hrest
  refine ⟨by have := h.1; omega, fun fuel hfuel => ?_⟩
  have hnext := h.2 fuel (by omega)
  obtain ⟨fuel, rfl⟩ := Nat.exists_eq_add_one_of_ne_zero (Nat.ne_of_gt (Nat.zero_lt_of_lt hfuel))
  have htake := Cursor.takeWhile_of_pos (f := fun ch => !endsQuotedRun ch) hrest (by simp [hch])
    (Cursor.next_rest hrest)
  rw [quotedRun] at hnext ⊢
  rw [htake]
  -- The run before and the run with the character end at the same place, and there they do the
  -- same.
  generalize c.next.takeWhile (fun ch => !endsQuotedRun ch) = taken at hnext ⊢
  obtain ⟨ds, d⟩ := taken
  dsimp only at hnext ⊢
  split at hnext
  · next hcond =>
    obtain ⟨⟨qs, d'⟩, hqs, hres⟩ := bind_eq_ok.1 hnext
    cases hres
    rw [if_pos hcond]
    exact bind_eq_ok.2 ⟨_, hqs, rfl⟩
  · next hcond =>
    rw [if_neg hcond]
    split at hnext
    · next hother =>
      obtain ⟨⟨qs, d'⟩, hqs, hres⟩ := bind_eq_ok.1 hnext
      cases hres
      rw [if_pos hother]
      exact bind_eq_ok.2 ⟨_, hqs, rfl⟩
    · next hother =>
      rw [if_neg hother]
      split at hnext
      · next hescape =>
        obtain ⟨⟨es, d₁⟩, hes, hnext⟩ := bind_eq_ok.1 hnext
        obtain ⟨⟨qs, d'⟩, hqs, hres⟩ := bind_eq_ok.1 hnext
        cases hres
        rw [if_pos hescape]
        exact bind_eq_ok.2 ⟨_, hes, bind_eq_ok.2 ⟨_, hqs, rfl⟩⟩
      · next hescape =>
        cases hnext
        rw [if_neg hescape]
        rfl

/-- A character that would close a text of the other kind. -/
theorem otherQuote (hrest : c.rest = ch :: cs)
    (hch : (double && ch == '\x27' || !double && (ch == '"' || ch == '\\')) = true)
    (h : ReadsRun double c.next ps c') : ReadsRun double c (.char ch :: ps) c' := by
  have hleft := Cursor.left_next hrest
  refine ⟨by have := h.1; omega, fun fuel hfuel => ?_⟩
  obtain ⟨fuel, rfl⟩ := Nat.exists_eq_add_one_of_ne_zero (Nat.ne_of_gt (Nat.zero_lt_of_lt hfuel))
  have hends : endsQuotedRun ch = true := by
    rw [endsQuotedRun]
    cases double with
    | true => simp_all
    | false =>
      simp only [Bool.false_and, Bool.not_false, Bool.true_and, Bool.false_or, Bool.or_eq_true,
        beq_iff_eq] at hch
      rcases hch with rfl | rfl <;> rfl
  have htake : c.takeWhile (fun ch => !endsQuotedRun ch) = ([], c) :=
    Cursor.takeWhile_of_not (by simp [hrest, hends])
  have hpair : ¬ ((!double && ch == '\x27' && c.peekAt 1 == '\x27') = true) := by
    cases double <;> simp at hch ⊢
    rintro rfl
    simp at hch
  rw [quotedRun, htake]
  simp only [Cursor.peek_of_rest hrest]
  rw [if_neg hpair, if_pos hch]
  exact bind_eq_ok.2 ⟨_, h.2 fuel (by omega), rfl⟩

/-- A doubled quote between single quotes. -/
theorem doubledQuote (hrest : c.rest = '\x27' :: '\x27' :: cs)
    (h : ReadsRun false (c.skip 2) ps c') : ReadsRun false c (.char '\x27' :: ps) c' := by
  have hleft := Cursor.left_next hrest
  have hleft' := Cursor.left_next (Cursor.next_rest hrest)
  have hskip : c.skip 2 = c.next.next := rfl
  rw [hskip] at h
  refine ⟨by have := h.1; omega, fun fuel hfuel => ?_⟩
  obtain ⟨fuel, rfl⟩ := Nat.exists_eq_add_one_of_ne_zero (Nat.ne_of_gt (Nat.zero_lt_of_lt hfuel))
  have htake : c.takeWhile (fun ch => !endsQuotedRun ch) = ([], c) :=
    Cursor.takeWhile_of_not (by simp [hrest, endsQuotedRun])
  rw [quotedRun, htake]
  simp only [Cursor.peek_of_rest hrest, Cursor.peekAt_one_of_rest hrest]
  rw [if_pos (by decide)]
  exact bind_eq_ok.2 ⟨_, h.2 fuel (by omega), rfl⟩

/-- An escape between double quotes. -/
theorem escape (hrest : c.rest = '\\' :: cs) (hle : c₁.left ≤ c.next.left)
    (hescape : ∀ fuel, c.next.left < fuel → quotedEscape fuel c.next = .ok (es, c₁))
    (h : ReadsRun true c₁ ps c') : ReadsRun true c (es ++ ps) c' := by
  have hleft := Cursor.left_next hrest
  refine ⟨by have := h.1; omega, fun fuel hfuel => ?_⟩
  obtain ⟨fuel, rfl⟩ := Nat.exists_eq_add_one_of_ne_zero (Nat.ne_of_gt (Nat.zero_lt_of_lt hfuel))
  have htake : c.takeWhile (fun ch => !endsQuotedRun ch) = ([], c) :=
    Cursor.takeWhile_of_not (by simp [hrest, endsQuotedRun])
  rw [quotedRun, htake]
  simp only [Cursor.peek_of_rest hrest]
  rw [if_neg (by simp), if_neg (by simp), if_pos (by simp)]
  refine bind_eq_ok.2 ⟨_, hescape fuel (by omega), bind_eq_ok.2 ⟨_, h.2 fuel (by omega), ?_⟩⟩
  rfl

end ReadsRun

/-! ### What stands between quotes -/

/-- What a text between quotes is read as from a place on, and the place behind it. -/
inductive Reads (double : Bool) (quote : Char) : Cursor → List CodePoint → Cursor → Prop
  /-- The closing quote stands behind a run. -/
  | close {c c₁ : Cursor} {ps : List CodePoint} (run : ReadsRun double c ps c₁)
    (quoted : c₁.peek = quote) : Reads double quote c ps c₁.next
  /-- Blanks or line ends stand behind a run. -/
  | gap {c c₁ c₂ c' : Cursor} {ps qs : List CodePoint} {bs : List Char}
    (run : ReadsRun double c ps c₁) (unquoted : c₁.peek ≠ quote)
    (blanks : quotedBlanks (c₁.left + 1) c₁ = .ok (bs, c₂)) (less : c₂.left < c₁.left)
    (more : Reads double quote c₂ qs c') : Reads double quote c (ps ++ bs.map .char ++ qs) c'

namespace Reads

/-- **Whatever the fuel, the text is read in this way.** -/
theorem quotedRest_eq (h : Reads double quote c ps c') :
    ∀ fuel, c.left < fuel → quotedRest double quote fuel c = .ok (ps, c') := by
  induction h with
  | close run quoted =>
    intro fuel hfuel
    obtain ⟨fuel, rfl⟩ :=
      Nat.exists_eq_add_one_of_ne_zero (Nat.ne_of_gt (Nat.zero_lt_of_lt hfuel))
    rw [quotedRest]
    refine bind_eq_ok.2 ⟨_, run.2 _ (Nat.lt_succ_self _), ?_⟩
    dsimp only
    rw [if_pos (by simp [quoted])]
    rfl
  | gap run unquoted blanks less more ih =>
    intro fuel hfuel
    obtain ⟨fuel, rfl⟩ :=
      Nat.exists_eq_add_one_of_ne_zero (Nat.ne_of_gt (Nat.zero_lt_of_lt hfuel))
    rw [quotedRest]
    refine bind_eq_ok.2 ⟨_, run.2 _ (Nat.lt_succ_self _), ?_⟩
    dsimp only
    rw [if_neg (by simp [unquoted])]
    refine bind_eq_ok.2 ⟨_, blanks, bind_eq_ok.2 ⟨_, ih fuel ?_, rfl⟩⟩
    have := run.1
    omega

/-- A run may be longer at its start. -/
theorem longer (h : Reads double quote c₁ ps c') (qs : List CodePoint)
    (hrun : ∀ rs c₂, ReadsRun double c₁ rs c₂ → ReadsRun double c (qs ++ rs) c₂) :
    Reads double quote c (qs ++ ps) c' := by
  cases h with
  | close run quoted => exact .close (hrun _ _ run) quoted
  | gap run unquoted blanks less more =>
    have hmore := Reads.gap (hrun _ _ run) unquoted blanks less more
    simpa only [List.append_assoc] using hmore

/-- A character that ends no run is added in front of what is read already. -/
theorem char (hrest : c.rest = ch :: cs) (hch : endsQuotedRun ch = false)
    (h : Reads double quote c.next ps c') : Reads double quote c (.char ch :: ps) c' :=
  h.longer [.char ch] fun _ _ run => run.char hrest hch

/-- So is a quote of the other kind, and a backslash between single quotes. -/
theorem otherQuote (hrest : c.rest = ch :: cs)
    (hch : (double && ch == '\x27' || !double && (ch == '"' || ch == '\\')) = true)
    (h : Reads double quote c.next ps c') : Reads double quote c (.char ch :: ps) c' :=
  h.longer [.char ch] fun _ _ run => run.otherQuote hrest hch

/-- Two single quotes are added as one. -/
theorem doubledQuote (hrest : c.rest = '\x27' :: '\x27' :: cs)
    (h : Reads false quote (c.skip 2) ps c') : Reads false quote c (.char '\x27' :: ps) c' :=
  h.longer [.char '\x27'] fun _ _ run => run.doubledQuote hrest

/-- An escape is added as the code points that it stands for. -/
theorem escape (hrest : c.rest = '\\' :: cs) (hle : c₁.left ≤ c.next.left)
    (hescape : ∀ fuel, c.next.left < fuel → quotedEscape fuel c.next = .ok (es, c₁))
    (h : Reads true quote c₁ ps c') : Reads true quote c (es ++ ps) c' :=
  h.longer es fun _ _ run => run.escape hrest hle hescape

end Reads

/-! ### Blanks and line ends -/

/-- Whether blanks at the start of a text are followed by a character of the same line. -/
def Unbroken (cs : List Char) : Prop :=
  ∃ ch ds, cs.dropWhile (fun ch => ch == ' ' || ch == '\t') = ch :: ds ∧ endsLine ch = false

/-- A character of a line, other than blanks and tabs, follows no blanks. -/
theorem Unbroken.of_head (hblank : ch ≠ ' ') (htab : ch ≠ '\t') (hch : endsLine ch = false) :
    Unbroken (ch :: cs) :=
  ⟨ch, cs, List.dropWhile_cons_of_neg (by simp [hblank, htab]), hch⟩

/-- One blank more in front changes nothing. -/
theorem Unbroken.cons_blank (h : Unbroken cs) : Unbroken (' ' :: cs) := h

/-- Nor do several. -/
theorem Unbroken.blanks_append (h : Unbroken cs) (n : Nat) :
    Unbroken (List.replicate n ' ' ++ cs) := by
  induction n with
  | zero => exact h
  | succ n ih => exact ih

/-- Blanks inside a line are read as they are. -/
theorem quotedBlanks_of_unbroken (hcs : Unbroken c.rest) (fuel : Nat) :
    quotedBlanks fuel c = .ok (c.takeWhile fun ch => ch == ' ' || ch == '\t') := by
  obtain ⟨ch, ds, hdrop, hch⟩ := hcs
  rw [endsLine, Bool.or_eq_false_iff] at hch
  have hpeek := Cursor.peek_of_rest (c := (c.takeWhile fun ch => ch == ' ' || ch == '\t').2)
    ((Cursor.rest_takeWhile ..).trans hdrop)
  rw [quotedBlanks]
  simp only [hpeek, hch.1, hch.2]
  rfl

/-- Where a run stops at once it is empty: a run is read in one way only. -/
theorem ReadsRun.eq_nil {ps : List CodePoint} (h : ReadsRun double c ps c₁)
    (hstop : ReadsRun double c [] c) : ps = [] ∧ c₁ = c := by
  have heq := (h.2 _ (Nat.lt_succ_self _)).symm.trans (hstop.2 _ (Nat.lt_succ_self _))
  simpa using heq

/-- A blank in front of a text. -/
theorem Reads.blank (hrest : c.rest = ' ' :: cs) (hcs : Unbroken cs)
    (hquote : endsToken quote = false)
    (h : Reads double quote c.next ps c') : Reads double quote c (.char ' ' :: ps) c' := by
  have hstop {c : Cursor} {ch : Char} {cs : List Char} (hrest : c.rest = ch :: cs)
      (hch : (ch == ' ' || ch == '\t') = true) : ReadsRun double c [] c := by
    have : ch = ' ' ∨ ch = '\t' := by simpa using hch
    rcases this with rfl | rfl <;> exact .stop hrest (by decide) (by simp) (by simp) (by simp)
  have hne {c : Cursor} {ch : Char} {cs : List Char} (hrest : c.rest = ch :: cs)
      (hch : (ch == ' ' || ch == '\t') = true) : c.peek ≠ quote := by
    rw [Cursor.peek_of_rest hrest]
    rintro rfl
    have : ch = ' ' ∨ ch = '\t' := by simpa using hch
    rcases this with rfl | rfl <;> exact absurd hquote (by decide)
  have htake := Cursor.takeWhile_of_pos (f := fun ch => ch == ' ' || ch == '\t') hrest
    (by decide) (Cursor.next_rest hrest)
  have hblanks := quotedBlanks_of_unbroken (c := c) (hrest ▸ hcs.cons_blank) (c.left + 1)
  rw [htake] at hblanks
  have hleft := Cursor.left_next hrest
  by_cases hhead : ∀ d ∈ c.next.rest.head?, (d == ' ' || d == '\t') = false
  · rw [Cursor.takeWhile_of_not hhead] at hblanks
    exact .gap (hstop hrest (by decide)) (hne hrest (by decide)) hblanks
      (show c.next.left < c.left by omega) h
  · obtain ⟨d, hd, hdblank⟩ : ∃ d ∈ c.next.rest.head?, (d == ' ' || d == '\t') = true := by
      simpa only [not_forall, Bool.not_eq_false, exists_prop] using hhead
    obtain ⟨ds, hds⟩ := List.head?_eq_some_iff.1 hd
    -- The blanks that stand behind are taken together with this one.
    cases h with
    | close run quoted =>
      obtain ⟨-, rfl⟩ := run.eq_nil (hstop hds hdblank)
      exact absurd quoted (hne hds hdblank)
    | gap run unquoted blanks less more =>
      obtain ⟨rfl, rfl⟩ := run.eq_nil (hstop hds hdblank)
      rw [quotedBlanks_of_unbroken (Cursor.next_rest hrest ▸ hcs)] at blanks
      rw [Except.ok.inj blanks] at hblanks
      exact .gap (hstop hrest (by decide)) (hne hrest (by decide)) hblanks
        (Nat.lt_trans less (by omega)) more

variable {e p : Page} {b : Char} {bs : List Char} {n : Nat}

theorem isInline_blank : ∀ c ∈ List.replicate n ' ', isInline c = true := by
  intro c hc
  rw [List.eq_of_mem_replicate hc]
  decide

/-- The line ends and the indentation behind the end of a line. -/
theorem quotedBreaks_place (hn : 0 < n) (hbs : ∀ b ∈ bs, isWrittenBreak b = true)
    (h : p.linesDown bs n ≤ e)
    (hnext : ∀ ch ∈ (e.rest (p.linesDown bs n)).head?, endsToken ch = false) :
    ∀ fuel, bs.length < fuel →
      quotedBreaks fuel (e.place p) =
        .ok (bs.map Cursor.readBreak, e.place (p.linesDown bs n)) := by
  induction bs generalizing p with
  -- The last line end is behind us: the indentation is passed over, and the text goes on.
  | nil =>
    intro fuel hfuel
    obtain ⟨fuel, rfl⟩ :=
      Nat.exists_eq_add_one_of_ne_zero (Nat.ne_of_gt (Nat.zero_lt_of_lt hfuel))
    obtain ⟨m, rfl⟩ := Nat.exists_eq_add_one_of_ne_zero (Nat.ne_of_gt hn)
    have hrest : (e.place p).rest = ' ' :: (List.replicate m ' ' ++ _) := Page.rest_put h
    have hsep := Cursor.not_atSeparator hrest (by decide) (by decide)
    have htake : (e.place p).takeWhile (fun ch => ch == ' ' || ch == '\t') =
        (List.replicate (m + 1) ' ', e.place (p.linesDown [] (m + 1))) :=
      Page.place_takeWhile h isInline_blank (by simp) fun ch hch => by
        obtain ⟨htab, hblank, -, -⟩ := of_endsToken (hnext ch hch)
        simp [htab, hblank]
    have hpeek : isBreak (e.place (p.linesDown [] (m + 1))).peek = false :=
      Cursor.of_peek (fun ch hch => (of_endsToken (hnext ch hch)).2.2.1) rfl
    rw [quotedBreaks, if_neg (by simp [hsep]), Cursor.dropWhile, htake]
    exact if_neg (by simp [hpeek])
  -- An empty line: no blanks, and then the next line end.
  | cons b bs ih =>
    intro fuel hfuel
    obtain ⟨fuel, rfl⟩ :=
      Nat.exists_eq_add_one_of_ne_zero (Nat.ne_of_gt (Nat.zero_lt_of_lt hfuel))
    rw [List.forall_mem_cons] at hbs
    have hend : p.endLine b ≤ e := (Page.le_linesDown bs n _).trans h
    have hrest : (e.place p).rest = b :: _ := Page.rest_endLine hend
    have hsep := Cursor.not_atSeparator hrest (by rintro rfl; simp [isWrittenBreak] at hbs)
      (by rintro rfl; simp [isWrittenBreak] at hbs)
    have htake : (e.place p).takeWhile (fun ch => ch == ' ' || ch == '\t') = ([], e.place p) :=
      Cursor.takeWhile_of_not (Cursor.mem_head?_of_rest hrest (by
        simp only [Bool.or_eq_false_iff, beq_eq_false_iff_ne]
        constructor <;> rintro rfl <;> simp [isWrittenBreak] at hbs))
    have hline := Cursor.lineBreak_of_rest hrest hbs.1
    rw [Page.place_next_endLine hend hbs.1] at hline
    rw [quotedBreaks, if_neg (by simp [hsep]), Cursor.dropWhile, htake]
    dsimp only
    rw [Cursor.peek_of_rest hrest, if_pos (isBreak_of_isWrittenBreak hbs.1), hline]
    exact bind_eq_ok.2 ⟨_, ih hbs.2 h hnext fuel (by simpa using hfuel), rfl⟩

/-- Line ends between quotes, and the indentation behind them. -/
theorem quotedBlanks_place (hn : 0 < n) (hb : isWrittenBreak b = true)
    (hbs : ∀ b ∈ bs, isWrittenBreak b = true) (h : p.linesDown (b :: bs) n ≤ e)
    (hnext : ∀ ch ∈ (e.rest (p.linesDown (b :: bs) n)).head?, endsToken ch = false) {fuel : Nat}
    (hfuel : bs.length < fuel) :
    quotedBlanks fuel (e.place p) = .ok (foldedBreaks [Cursor.readBreak b]
      (bs.map Cursor.readBreak), e.place (p.linesDown (b :: bs) n)) := by
  have hend : p.endLine b ≤ e := (Page.le_linesDown bs n _).trans h
  have hrest : (e.place p).rest = b :: _ := Page.rest_endLine hend
  have htake : (e.place p).takeWhile (fun ch => ch == ' ' || ch == '\t') = ([], e.place p) :=
    Cursor.takeWhile_of_not (Cursor.mem_head?_of_rest hrest (by
      simp only [Bool.or_eq_false_iff, beq_eq_false_iff_ne]
      constructor <;> rintro rfl <;> simp [isWrittenBreak] at hb))
  have hline := Cursor.lineBreak_of_rest hrest hb
  rw [Page.place_next_endLine hend hb] at hline
  rw [quotedBlanks, htake]
  dsimp only
  rw [Cursor.peek_of_rest hrest, if_neg, if_pos (isBreak_of_isWrittenBreak hb), hline]
  · exact bind_eq_ok.2 ⟨_, quotedBreaks_place hn hbs h hnext fuel hfuel, rfl⟩
  · rw [beq_iff_eq]
    rintro rfl
    exact absurd hb (by decide)

/-- Line ends in front of a text. -/
theorem Reads.lines (hn : 0 < n) (hb : isWrittenBreak b = true)
    (hbs : ∀ b ∈ bs, isWrittenBreak b = true) (h : p.linesDown (b :: bs) n ≤ e)
    (hnext : ∀ ch ∈ (e.rest (p.linesDown (b :: bs) n)).head?, endsToken ch = false)
    (hquote : endsToken quote = false)
    (hreads : Reads double quote (e.place (p.linesDown (b :: bs) n)) ps c') :
    Reads double quote (e.place p) ((foldedBreaks [Cursor.readBreak b]
      (bs.map Cursor.readBreak)).map .char ++ ps) c' := by
  have hrest : (e.place p).rest = b :: (bs ++ List.replicate n ' ' ++ _) := Page.rest_linesDown h
  have hends : endsToken b = true := by
    simp [endsToken, endsWord, endsLine, isBreak_of_isWrittenBreak hb]
  have hstop : ReadsRun double (e.place p) [] (e.place p) := by
    refine .stop hrest (by simp [endsQuotedRun, hends]) ?_ ?_ ?_
    all_goals
      rintro rfl
      exact absurd hb (by decide)
  have hlength := congrArg List.length hrest
  simp only [List.length_cons, List.length_append, List.length_replicate] at hlength
  refine .gap hstop ?_ (quotedBlanks_place hn hb hbs h hnext ?_) ?_ hreads
  · rw [Cursor.peek_of_rest hrest]
    rintro rfl
    exact absurd hends (by simp [hquote])
  · rw [Page.place_left]
    simp only [Page.place_rest] at hlength
    omega
  · simp only [Page.place_left, Page.place_rest] at hlength ⊢
    omega

end Yaml
end WorkflowKit
