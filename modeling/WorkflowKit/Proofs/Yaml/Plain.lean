/-
# Texts without quotes

A text without quotes is written word by word, and read back word by word (`plainRest_place`).  It
ends before a colon with a blank behind it, or with the line if the next one is indented less.  In
that case the reader has passed the end of the line and the indentation when it notices.
-/

import WorkflowKit.Proofs.Yaml.Quoted
import WorkflowKit.Proofs.Yaml.Run

namespace WorkflowKit
namespace Yaml
namespace Page

variable {p e : Page} {l : Layout} {n : Nat} {cs ws : List Char} {rs : List Run}
  {ctx : PlainContext}

/-! ### Words -/

/-- Whether characters make a word of a text without quotes. -/
structure IsWord (ws : List Char) : Prop where
  /-- They are not empty. -/
  ne_nil : ws ≠ []
  /-- None of them ends a word. -/
  inside : ∀ c ∈ ws, endsToken c = false ∧ isInline c = true
  /-- They do not begin a comment. -/
  head : ws.head? ≠ some '#'
  /-- They do not end with a colon. -/
  last : ws.getLast? ≠ some ':'

/-- A run goes on to the end of a word. -/
theorem plainRun_word (hinside : ∀ c ∈ ws, endsToken c = false) (hlast : ws.getLast? ≠ some ':')
    (hcs : plainRun false cs = []) : plainRun false (ws ++ cs) = ws := by
  induction ws with
  | nil => exact hcs
  | cons c ws ih =>
    rw [List.forall_mem_cons] at hinside
    have hcolon : (c == ':' && endsToken ((ws ++ cs).headD endMark)) = false := by
      cases ws with
      | nil =>
        have : c ≠ ':' := by simpa using hlast
        simp [this]
      | cons d ws => simp [hinside.2 d (List.mem_cons_self ..)]
    have htail : ws.getLast? ≠ some ':' := by
      cases ws with
      | nil => simp
      | cons d ws => simpa [List.getLast?_cons_cons] using hlast
    rw [List.cons_append, plainRun]
    simp only [hinside.1, hcolon, Bool.false_and, Bool.or_false, Bool.false_eq_true,
      if_false, ih hinside.2 htail]

/-- Whether parts are words with blanks between them. -/
inductive Words : List Run → Prop
  /-- A word alone. -/
  | last {ws : List Char} (word : IsWord ws) : Words [.word ws]
  /-- A word and blanks before words. -/
  | more {ws : List Char} {n : Nat} {rs : List Run} (word : IsWord ws) (pos : 0 < n)
    (rest : Words rs) : Words (.word ws :: .blanks n :: rs)

theorem Words.exists_head (h : Words rs) (hrs : plainRuns l rs p ≤ e) :
    ∃ ch cs, e.rest p = ch :: cs ∧ endsToken ch = false ∧ ch ≠ '#' := by
  have hword {ws : List Char} (hws : IsWord ws) (hput : p.put ws ≤ e) :
      ∃ ch cs, e.rest p = ch :: cs ∧ endsToken ch = false ∧ ch ≠ '#' := by
    rw [rest_put hput]
    obtain ⟨hne, hinside, hhead, -⟩ := hws
    cases ws with
    | nil => exact absurd rfl hne
    | cons c ws =>
      exact ⟨c, _, rfl, (hinside c (List.mem_cons_self ..)).1, by simpa using hhead⟩
  cases h with
  | last word => exact hword word hrs
  | more word => exact hword word ((le_plainRuns l (_ :: _) _).trans hrs)

/-! ### Blanks between words -/

theorem plainBreaks_place (h : p.put (List.replicate n ' ') ≤ e)
    (hnext : ∀ ch ∈ (e.rest (p.put (List.replicate n ' '))).head?, ch ≠ ' ' ∧ isBreak ch = false)
    (fuel : Nat) :
    plainBreaks (fuel + 1) (e.place p) = (some [], e.place (p.put (List.replicate n ' '))) := by
  have htake : (e.place p).takeWhile (· == ' ') =
      (List.replicate n ' ', e.place (p.put (List.replicate n ' '))) :=
    place_takeWhile h isInline_blank (by simp) fun ch hch => by simpa using (hnext ch hch).1
  have hpeek : isBreak (e.place (p.put (List.replicate n ' '))).peek = false :=
    Cursor.of_peek (fun ch hch => (hnext ch hch).2) rfl
  rw [plainBreaks, Cursor.skipBlanks, Cursor.dropWhile, htake]
  simp [hpeek]

/-- The end of a line and an indentation. -/
theorem plainBlanks_linesDown (h : p.linesDown ['\n'] n ≤ e)
    (hnext : ∀ ch ∈ (e.rest (p.linesDown ['\n'] n)).head?, ch ≠ ' ' ∧ isBreak ch = false)
    (hsep : (e.place (p.endLine '\n')).atSeparator = false) :
    plainBlanks (e.place p) = ([' '], e.place (p.linesDown ['\n'] n), true) := by
  have hend : p.endLine '\n' ≤ e := (le_put ..).trans h
  have hrest : (e.place p).rest = '\n' :: _ := rest_endLine hend
  have htake : (e.place p).takeWhile (· == ' ') = ([], e.place p) :=
    Cursor.takeWhile_of_not (Cursor.mem_head?_of_rest hrest rfl)
  have hline := Cursor.lineBreak_of_rest hrest rfl
  rw [place_next_endLine hend rfl] at hline
  have hbreaks := plainBreaks_place (p := p.endLine '\n') h hnext
    (e.place (p.endLine '\n')).left
  rw [plainBlanks, htake]
  simp only [Cursor.peek_of_rest hrest, hline, hsep, hbreaks]
  rfl

/-- Blanks within a line. -/
theorem plainBlanks_put (h : p.put (List.replicate n ' ') ≤ e)
    (hnext : ∀ ch ∈ (e.rest (p.put (List.replicate n ' '))).head?,
      ch ≠ ' ' ∧ isBreak ch = false) :
    plainBlanks (e.place p) =
      (List.replicate n ' ', e.place (p.put (List.replicate n ' ')), false) := by
  have htake : (e.place p).takeWhile (· == ' ') =
      (List.replicate n ' ', e.place (p.put (List.replicate n ' '))) :=
    place_takeWhile h isInline_blank (by simp) fun ch hch => by simpa using (hnext ch hch).1
  have hpeek : isBreak (e.place (p.put (List.replicate n ' '))).peek = false :=
    Cursor.of_peek (fun ch hch => (hnext ch hch).2) rfl
  rw [plainBlanks, htake]
  simp [hpeek]

/-- Blanks behind a word, or the end of a line in the place of one. -/
def plainGap (l : Layout) (n : Nat) (p : Page) : Page :=
  if n == 1 && width < p.column && l.split then (p.indent l.indent).insideText
  else p.put (List.replicate n ' ')

theorem plainRuns_blanks (l : Layout) (n : Nat) (rs : List Run) (p : Page) :
    plainRuns l (.blanks n :: rs) p = plainRuns l rs (plainGap l n p) := rfl

theorem le_plainGap (l : Layout) (n : Nat) (p : Page) : p ≤ plainGap l n p := by
  rw [plainGap]
  split
  · exact le_indent l.indent p
  · exact le_put _ p

theorem plainGap_eq (hfresh : p.fresh = false) :
    plainGap l n p = p.put (List.replicate n ' ') ∨
      n = 1 ∧ plainGap l n p = (p.linesDown ['\n'] l.indent).insideText := by
  rw [plainGap]
  split
  · next hfold =>
    simp only [Bool.and_eq_true, beq_iff_eq] at hfold
    exact .inr ⟨hfold.1.1, by rw [indent_eq_linesDown (.inl hfresh)]⟩
  · exact .inl rfl

theorem plainGap_fresh (hfresh : p.fresh = false) : (plainGap l n p).fresh = false := by
  rcases plainGap_eq (l := l) (n := n) hfresh with heq | ⟨-, heq⟩
  · exact heq ▸ hfresh
  · exact heq ▸ rfl

theorem le_plainGap_column {i : Int} (hfresh : p.fresh = false) (hl : i ≤ l.indent)
    (hp : i ≤ p.column) : i ≤ (plainGap l n p).column := by
  rcases plainGap_eq (l := l) (n := n) hfresh with heq | ⟨-, heq⟩
  · rw [heq, put_column]
    omega
  · rw [heq, insideText_column, linesDown_column (by simp)]
    exact hl

/-- A word ends before what separates it from the next one. -/
theorem plainRun_plainGap (hfresh : p.fresh = false) (hn : 0 < n) (h : plainGap l n p ≤ e) :
    plainRun false (e.rest p) = [] := by
  have hstop {d : Char} {ds : List Char} (hrest : e.rest p = d :: ds) (hd : endsToken d = true) :
      plainRun false (e.rest p) = [] := by
    rw [hrest, plainRun]
    simp [hd]
  obtain ⟨k, rfl⟩ := Nat.exists_eq_add_one_of_ne_zero (Nat.ne_of_gt hn)
  rcases plainGap_eq (l := l) (n := k + 1) hfresh with heq | ⟨-, heq⟩
  · exact hstop (rest_put (heq ▸ h)) rfl
  · rw [heq] at h
    have hdown : p.linesDown ['\n'] l.indent ≤ e := h
    exact hstop (rest_linesDown hdown) rfl

/-- Blanks are read as they are, and the end of a line as a blank. -/
theorem plainBlanks_plainGap (hl : 0 < l.indent) (hfresh : p.fresh = false)
    (h : plainGap l n p ≤ e)
    (hnext : ∀ ch ∈ (e.rest (plainGap l n p)).head?, ch ≠ ' ' ∧ isBreak ch = false) :
    ∃ broken, plainBlanks (e.place p) =
      (List.replicate n ' ', e.place (plainGap l n p), broken) := by
  rcases plainGap_eq (l := l) (n := n) hfresh with heq | ⟨rfl, heq⟩
  · rw [heq] at h hnext ⊢
    exact ⟨false, plainBlanks_put h hnext⟩
  · rw [heq] at h hnext ⊢
    have hdown : p.linesDown ['\n'] l.indent ≤ e := h
    have hsep : (e.place (p.endLine '\n')).atSeparator = false := by
      have hrest := rest_put (p := p.endLine '\n') hdown
      obtain ⟨k, hk⟩ := Nat.exists_eq_add_one_of_ne_zero (Nat.ne_of_gt hl)
      rw [hk, List.replicate_succ, List.cons_append] at hrest
      exact Cursor.not_atSeparator (c := e.place (p.endLine '\n')) hrest (by decide) (by decide)
    exact ⟨true, plainBlanks_linesDown hdown hnext hsep⟩

/-! ### Words and blanks -/

/-- A word is taken from its start to its end. -/
theorem IsWord.run_eq (hws : IsWord ws) (h : p.put ws ≤ e)
    (hstop : plainRun false (e.rest (p.put ws)) = []) :
    (if (e.place p).peek == '#' then [] else plainRun false (e.place p).rest) = ws := by
  have hrest : (e.place p).rest = ws ++ _ := rest_put h
  have hpeek : ((e.place p).peek == '#') = false := by
    obtain ⟨hne, -, hhead, -⟩ := hws
    obtain ⟨c, ws, rfl⟩ := List.exists_cons_of_ne_nil hne
    rw [Cursor.peek_of_rest hrest]
    simpa using hhead
  rw [hpeek, if_neg (by simp), hrest]
  exact plainRun_word (fun c hc => (hws.inside c hc).1) hws.last hstop

/-- A word is taken, and so are the blanks behind it. -/
theorem plainRest_word (hflow : ctx.inFlow = false) (hws : IsWord ws) (h : p.put ws ≤ e)
    (hstop : plainRun false (e.rest (p.put ws)) = []) {bs : List Char} {c : Cursor} {broken' : Bool}
    (hblanks : plainBlanks (e.place (p.put ws)) = (bs, c, broken')) (fuel : Nat)
    (blanks : List Char) (broken : Bool) :
    plainRest ctx (fuel + 1) blanks broken (e.place p) =
      if bs = [] ∨ c.peek = '#' ∨ (c.column : Int) < ctx.indent then (blanks ++ ws, c, broken')
      else
        let (more, c, broken'') := plainRest ctx fuel bs broken' c
        (blanks ++ ws ++ more, c, broken'') := by
  have hskip : (e.place p).skip ws.length = e.place (p.put ws) :=
    place_skip_put h fun c hc => (hws.inside c hc).2
  rw [plainRest, hflow, hws.run_eq h hstop]
  dsimp only
  rw [if_neg (by simpa using hws.ne_nil), hskip, hblanks]
  simp [or_assoc]

/-- Whether a scalar without quotes ends behind a page, and at which place. -/
structure EndsPlain (ctx : PlainContext) (e q : Page) (c : Cursor) (broken : Bool) : Prop where
  /-- The last word ends. -/
  stop : plainRun false (e.rest q) = []
  /-- So does the scalar. -/
  ended : ∃ bs, plainBlanks (e.place q) = (bs, c, broken) ∧
    (bs = [] ∨ (c.column : Int) < ctx.indent)

/-- **What is written without quotes is read word by word.** -/
theorem plainRest_place (hflow : ctx.inFlow = false) (hindent : ctx.indent ≤ l.indent)
    (hl : 0 < l.indent) (hwords : Words rs) {c : Cursor} {broken' : Bool} (hfresh : p.fresh = false)
    (hcolumn : ctx.indent ≤ p.column + 1) (h : plainRuns l rs p ≤ e)
    (hend : EndsPlain ctx e (plainRuns l rs p) c broken') (blanks : List Char) (broken : Bool) :
    ∀ fuel, (e.rest p).length < fuel →
      plainRest ctx fuel blanks broken (e.place p) = (blanks ++ runChars rs, c, broken') := by
  intro fuel hfuel
  induction hwords generalizing p blanks broken fuel with
  | @last ws word =>
    obtain ⟨fuel, rfl⟩ :=
      Nat.exists_eq_add_one_of_ne_zero (Nat.ne_of_gt (Nat.zero_lt_of_lt hfuel))
    obtain ⟨hstop, bs, hbs, hended⟩ := hend
    rw [plainRest_word hflow word h hstop hbs, if_pos (hended.imp_right .inr)]
    simp [Run.chars]
  | @more ws n rs word pos hrs ih =>
    obtain ⟨fuel, rfl⟩ :=
      Nat.exists_eq_add_one_of_ne_zero (Nat.ne_of_gt (Nat.zero_lt_of_lt hfuel))
    rw [plainRuns, plainRuns_blanks] at h hend
    have hgap : plainGap l n (p.put ws) ≤ e := (le_plainRuns ..).trans h
    have hput : p.put ws ≤ e := (le_plainGap ..).trans hgap
    -- The next word tells where the blanks end.
    obtain ⟨ch, ds, hch, hends, hhash⟩ := hrs.exists_head h
    obtain ⟨-, hblank, hbreak, -⟩ := of_endsToken hends
    have hnext : ∀ d ∈ (e.rest (plainGap l n (p.put ws))).head?, d ≠ ' ' ∧ isBreak d = false := by
      rw [hch]
      rintro _ ⟨⟩
      exact ⟨hblank, hbreak⟩
    have hstop := plainRun_plainGap (p := p.put ws) hfresh pos hgap
    obtain ⟨broken₁, hblanks⟩ := plainBlanks_plainGap (p := p.put ws) hl hfresh hgap hnext
    have hpos : 0 < ws.length := List.length_pos_iff.2 word.ne_nil
    have hdeep : ctx.indent ≤ (plainGap l n (p.put ws)).column :=
      le_plainGap_column hfresh hindent (by rw [put_column]; omega)
    have hgoes : ¬(List.replicate n ' ' = [] ∨ (e.place (plainGap l n (p.put ws))).peek = '#' ∨
        ((e.place (plainGap l n (p.put ws))).column : Int) < ctx.indent) := by
      have hne : n ≠ 0 := Nat.ne_of_gt pos
      have hlt : ¬ ((plainGap l n (p.put ws)).column : Int) < ctx.indent := by omega
      simp [Cursor.peek_of_rest (c := e.place (plainGap l n (p.put ws))) hch, hhash, hne, hlt]
    have hlength : (e.rest (plainGap l n (p.put ws))).length < fuel := by
      have hle := rest_length_le (e := e) (le_plainGap l n (p.put ws))
      have hrest := congrArg List.length (rest_put hput)
      rw [List.length_append] at hrest
      omega
    have hmore := ih (plainGap_fresh (p := p.put ws) hfresh) (by omega) h hend
      (List.replicate n ' ') broken₁ fuel hlength
    rw [plainRest_word hflow word hput hstop hblanks, if_neg hgoes, hmore]
    simp [Run.chars]

/-! ### Texts that stand without quotes -/

/-- The neighbours that do not stand in a text without quotes. -/
def endsWordOrText (a b : Char) : Bool := a == ':' && endsToken b || endsToken a && b == '#'

theorem isWord_of (hne : ws ≠ []) (howns : ∀ c ∈ ws, (Run.word ws).owns c = true)
    (hspecial : ∀ c ∈ ws, isSpecial c = false) (hhead : ws.head? ≠ some '#')
    (hlast : ws.getLast? ≠ some ':') : IsWord ws where
  ne_nil := hne
  inside c hc := by
    obtain ⟨hblank, hbreak⟩ := Bool.and_eq_true_iff.1 (howns c hc)
    exact endsToken_of_word (hspecial c hc) (by simpa using hblank) (by simpa using hbreak)
  head := hhead
  last := hlast

/-- The parts of a text without quotes are words with blanks between them. -/
theorem words_of : ∀ rs : List Run, rs ≠ [] → Proper rs →
    (∀ c ∈ runChars rs, isSpecial c = false ∧ isWrittenBreak c = false) →
    (∀ c ∈ (runChars rs).head?, c ≠ ' ' ∧ c ≠ '#') →
    (∀ c ∈ (runChars rs).getLast?, c ≠ ' ' ∧ c ≠ ':') →
    hasPair endsWordOrText (runChars rs) = false → Words rs
  -- The text begins with no blank, and holds no line end anywhere.
  | .blanks n :: rs, _, h, _, hhead, _, _ => by
    obtain ⟨k, rfl⟩ := Nat.exists_eq_add_one_of_ne_zero (n := n) (by rintro rfl; exact h.1 rfl)
    exact absurd rfl (hhead ' ' rfl).1
  | .breaks bs :: rs, _, h, hchars, _, _, _ => by
    obtain ⟨b, bs, rfl⟩ := List.exists_cons_of_ne_nil h.1
    exact absurd (h.2.1 b (List.mem_cons_self ..)) (by
      simp [(hchars b (List.mem_cons_self ..)).2])
  | [.word ws], _, h, hchars, hhead, hlast, _ => by
    simp only [runChars_cons, runChars_nil, List.append_nil, Run.chars] at hchars hhead hlast
    refine .last (isWord_of h.1 h.2.1 (fun c hc => (hchars c hc).1) ?_ ?_)
    · exact fun hc => (hhead _ hc).2 rfl
    · exact fun hc => (hlast _ hc).2 rfl
  -- Two parts of one kind never follow each other.
  | .word ws :: .word ws' :: rs, _, h, _, _, _, _ => by
    obtain ⟨c, cs, rfl⟩ := List.exists_cons_of_ne_nil h.2.2.2.1
    have hc := h.2.2.2.2.1 c (List.mem_cons_self ..)
    exact absurd (h.2.2.1 c rfl) (by simpa using hc)
  | .word ws :: .breaks bs :: rs, _, h, hchars, _, _, _ => by
    obtain ⟨b, bs, rfl⟩ := List.exists_cons_of_ne_nil h.2.2.2.1
    exact absurd (h.2.2.2.2.1 b (List.mem_cons_self ..)) (by
      simp [(hchars b (by simp [Run.chars])).2])
  -- A word before blanks: it must not end in a colon, nor the next one begin with a hash sign,
  -- which `hpair` says.
  | .word ws :: .blanks n :: rs, _, h, hchars, hhead, hlast, hpair => by
    obtain ⟨hne, howns, -, hn, -, hnhead, hrs⟩ := h
    obtain ⟨k, rfl⟩ := Nat.exists_eq_add_one_of_ne_zero (n := n) (by rintro rfl; exact hn rfl)
    simp only [runChars_cons, Run.chars] at hchars hhead hlast hpair
    have hrsne : rs ≠ [] := by
      rintro rfl
      refine (hlast ' ' ?_).1 rfl
      rw [runChars_nil, List.append_nil, List.replicate_succ', ← List.append_assoc]
      simp
    have hword : IsWord ws := by
      refine isWord_of hne howns (fun c hc => (hchars c (List.mem_append_left _ hc)).1) ?_ ?_
      · intro hc
        exact (hhead '#' (by simp [List.head?_append, hc])).2 rfl
      · intro hc
        obtain ⟨ds, hds⟩ := List.getLast?_eq_some_iff.1 hc
        rw [hds, List.append_assoc] at hpair
        exact absurd (not_of_hasPair hpair) (by decide)
    refine .more hword (Nat.succ_pos k) (words_of rs hrsne hrs
      (fun c hc => hchars c (List.mem_append_right _ (List.mem_append_right _ hc)))
      (fun c hc => ⟨by simpa using hnhead c hc, ?_⟩) (fun c hc => hlast c ?_)
      (hasPair_append_right (hasPair_append_right hpair)))
    · rintro rfl
      obtain ⟨cs, hcs⟩ := List.head?_eq_some_iff.1 hc
      rw [hcs, List.replicate_succ', List.append_assoc, ← List.append_assoc] at hpair
      exact absurd (not_of_hasPair hpair) (by decide)
    · simp [List.getLast?_append, Option.mem_def.1 hc]

/-- **A text that may stand without quotes is words with blanks between them.** -/
theorem words_runs (hne : cs ≠ []) (hcs : allowsPlain cs = true) : Words (runs cs) := by
  obtain ⟨hproper, hchars⟩ := proper_runs cs
  simp only [allowsPlain, hasIndicator, Bool.and_eq_true, bne_iff_ne, Bool.not_eq_true',
    Bool.or_eq_false_iff, List.any_eq_false] at hcs
  obtain ⟨⟨⟨⟨hhead, hlast⟩, hbreak⟩, hspecial⟩, ⟨⟨⟨-, hleading⟩, -⟩, hpair⟩, hcolon⟩ := hcs
  have hrsne : runs cs ≠ [] := by
    intro hnil
    rw [hnil] at hchars
    exact hne hchars.symm
  refine words_of (runs cs) hrsne hproper ?_ ?_ ?_ ?_ <;> rw [hchars]
  · exact fun c hc => ⟨by simpa using hspecial c hc, by simpa using hbreak c hc⟩
  · rintro c hc
    refine ⟨?_, ?_⟩
    · rintro rfl
      exact hhead hc
    · rintro rfl
      obtain ⟨ds, rfl⟩ := List.head?_eq_some_iff.1 hc
      have hmark : leadingIndicators.contains '#' = true := by decide
      rw [List.headD_cons, hmark] at hleading
      cases hleading
  · rintro c hc
    refine ⟨?_, ?_⟩
    · rintro rfl
      exact hlast hc
    · rintro rfl
      exact absurd hcolon (by simpa using hc)
  · exact hpair

/-- The first word of parts, and what stands behind it. -/
theorem Words.exists_word (h : Words rs) (hfresh : p.fresh = false) (hrs : plainRuns l rs p ≤ e)
    (hstop : plainRun false (e.rest (plainRuns l rs p)) = []) :
    ∃ ws cs, IsWord ws ∧ runChars rs = ws ++ cs ∧ (∀ c ∈ cs.head?, c = ' ') ∧
      p.put ws ≤ plainRuns l rs p ∧ plainRun false (e.rest (p.put ws)) = [] := by
  cases h with
  | @last ws word => exact ⟨ws, [], word, by simp [Run.chars], by simp, le_refl _, hstop⟩
  | @more ws n rs word pos rest =>
    obtain ⟨k, rfl⟩ := Nat.exists_eq_add_one_of_ne_zero (Nat.ne_of_gt pos)
    refine ⟨ws, _, word, runChars_cons .., by simp [Run.chars, List.replicate_succ],
      le_plainRuns l (_ :: _) _, ?_⟩
    rw [plainRuns, plainRuns_blanks] at hrs
    exact plainRun_plainGap (p := p.put ws) hfresh (Nat.succ_pos k) ((le_plainRuns ..).trans hrs)

theorem leadingIndicators_eq :
    leadingIndicators = ['#', ',', '[', ']', '\x7b', '\x7d', '&', '*', '!', '|', '>', '\x27',
      '\x22', '%', '@', '\x60'] := by
  decide

/-- What a text without quotes begins with. -/
structure BeginsPlain (ch : Char) (c : Cursor) : Prop where
  /-- Its first character. -/
  peek : c.peek = ch
  /-- It is part of a word. -/
  inside : endsToken ch = false
  /-- It indicates nothing. -/
  unmarked : leadingIndicators.contains ch = false
  /-- Nor does it with what follows. -/
  joined : ch = '-' ∨ ch = '?' ∨ ch = ':' → endsToken (c.peekAt 1) = false
  /-- The first word separates no documents. -/
  apart : c.atSeparator = false

/-- No word of a text that has three equal characters in front, but for the text itself. -/
theorem not_separates (ch : Char) {cs : List Char} (hch : endsToken ch = false) (hcolon : ch ≠ ':')
    (hws : [ch, ch, ch].isPrefixOf ws = false) (hstop : plainRun false cs = []) :
    ((ws ++ cs).take 3 == [ch, ch, ch]) = false := by
  have hne : cs.head? ≠ some ch := by
    intro hhead
    obtain ⟨ds, rfl⟩ := List.head?_eq_some_iff.1 hhead
    rw [plainRun] at hstop
    simp [hch, hcolon] at hstop
  match ws, hws with
  | [], _ =>
    cases cs with
    | nil => rfl
    | cons d ds =>
      have hd : d ≠ ch := by simpa using hne
      simp [hd]
  | [a], _ =>
    cases cs with
    | nil => simp
    | cons d ds =>
      have hd : d ≠ ch := by simpa using hne
      simp [hd]
  | [a, b], _ =>
    cases cs with
    | nil => simp
    | cons d ds =>
      have hd : d ≠ ch := by simpa using hne
      simp [hd]
  | a :: b :: c :: ws, hws =>
    have : ¬(a = ch ∧ b = ch ∧ c = ch) := by
      rintro ⟨rfl, rfl, rfl⟩
      simp at hws
    simpa using this

/-- **A text without quotes is not taken for anything else.** -/
theorem beginsPlain (hne : cs ≠ []) (hcs : allowsPlain cs = true) (h : p.plain l cs ≤ e)
    (hstop : plainRun false (e.rest (p.plain l cs)) = []) :
    ∃ ch, BeginsPlain ch (e.place p.lead) ∧ p.lead.put [ch] ≤ p.plain l cs := by
  obtain ⟨ws, ds, hword, hsplit, hds, hput, hwordstop⟩ :=
    (words_runs hne hcs).exists_word (p := p.lead.insideText) rfl h hstop
  rw [(proper_runs cs).2] at hsplit
  have hrest : (e.place p.lead).rest = ws ++ _ := rest_put (hput.trans h)
  have hwordstop : plainRun false (e.rest (p.lead.put ws)) = [] := hwordstop
  simp only [allowsPlain, hasIndicator, Bool.and_eq_true, bne_iff_ne, Bool.not_eq_true',
    Bool.or_eq_false_iff] at hcs
  obtain ⟨-, ⟨⟨⟨⟨hhyphens, hpoints⟩, hleading⟩, hmark⟩, -⟩, -⟩ := hcs
  have hshort {a : Char} (ha : [a, a, a].isPrefixOf cs = false) :
      [a, a, a].isPrefixOf ws = false := by
    rw [hsplit] at ha
    refine Bool.eq_false_iff.2 fun hws => Bool.eq_false_iff.1 ha ?_
    rw [List.isPrefixOf_iff_prefix] at hws ⊢
    exact hws.trans (List.prefix_append ..)
  have hseparator : (e.place p.lead).atSeparator = false := by
    rw [Cursor.atSeparator, hrest, not_separates '-' (by decide) (by decide)
      (hshort hhyphens) hwordstop, not_separates '.' (by decide) (by decide)
      (hshort hpoints) hwordstop]
    rfl
  obtain ⟨ch, ws, rfl⟩ := List.exists_cons_of_ne_nil hword.ne_nil
  refine ⟨ch, ⟨Cursor.peek_of_rest hrest, (hword.inside ch (List.mem_cons_self ..)).1, ?_, ?_,
    hseparator⟩, ?_⟩
  · rw [hsplit, List.cons_append, List.headD_cons] at hleading
    exact hleading
  · intro hch
    cases ws with
    | cons d ws =>
      rw [Cursor.peekAt_one_of_rest hrest]
      exact (hword.inside d (by simp)).1
    | nil =>
      -- A word of one character is none of the three.
      rcases hch with rfl | rfl | rfl
      · cases ds with
        | nil => simp [hsplit, endsToken, endsWord, endsLine] at hmark
        | cons d ds =>
          obtain rfl := hds d rfl
          simp [hsplit, endsToken, endsWord] at hmark
      · cases ds with
        | nil => simp [hsplit, endsToken, endsWord, endsLine] at hmark
        | cons d ds =>
          obtain rfl := hds d rfl
          simp [hsplit, endsToken, endsWord] at hmark
      · exact absurd rfl hword.last
  · have hput : p.lead.put ([ch] ++ ws) ≤ p.plain l cs := hput
    rw [put_append] at hput
    exact (le_put ..).trans hput

/-- **The scalar that is written without quotes.** -/
theorem plainScalar_plain (hne : cs ≠ []) (hcs : allowsPlain cs = true) (hflow : ctx.inFlow = false)
    (hindent : ctx.indent ≤ l.indent) (hl : 0 < l.indent) (hcolumn : ctx.indent ≤ p.lead.column + 1)
    {c : Cursor} {broken : Bool} (h : p.plain l cs ≤ e)
    (hend : EndsPlain ctx e (p.plain l cs) c broken) :
    plainScalar ctx (e.place p.lead) = (cs, c, broken) := by
  have hplace := plainRest_place hflow hindent hl (words_runs hne hcs) (p := p.lead.insideText) rfl
    hcolumn h hend [] false ((e.rest p.lead).length + 1) (Nat.lt_succ_self _)
  rw [(proper_runs cs).2] at hplace
  exact hplace

end Page
end Yaml
end WorkflowKit
