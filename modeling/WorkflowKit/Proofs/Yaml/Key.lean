/-
# Keys and empty collections on a page

A key on one line is noted where it begins, and marked when its colon follows: the mark of the key,
and that of a block that begins with it, come before its token (`ends_key`).  The reader looks for
the colon within 1024 characters.  Any other key stands behind a question mark.

An empty collection is a pair of brackets, between which no block ends.
-/

import WorkflowKit.Proofs.Yaml.Step

namespace WorkflowKit
namespace Yaml
namespace Page

variable {t : Token} {n m : Nat} {i : Int} {is is' : List Int} {ts ts' : List Token}
  {e p q : Page} {s : Lexer} {l : Layout}

/-! ### Texts as keys -/

/-- A code point between double quotes. -/
def pointText (q : CodePoint) : List Char :=
  if q.isCharWith standsForItself then [q.toChar] else escaped q

/-- The text of a key on one line. -/
def keyText (t : Text) : List Char :=
  match styleOf true t with
  | .plain => t.chars
  | .single => '\x27' :: t.chars.flatMap quotedChar ++ ['\x27']
  | .double => '"' :: t.points.flatMap pointText ++ ['"']

/-- A text without line breaks is cut into runs of which none is a line break. -/
theorem not_proper_breaks {bs : List Char} {rs : List Run}
    (hline : ∀ c ∈ runChars (.breaks bs :: rs), isWrittenBreak c = false) :
    ¬ Proper (.breaks bs :: rs) := by
  intro h
  obtain ⟨c, cs, rfl⟩ := List.exists_cons_of_ne_nil h.1
  have hc : isWrittenBreak c = true := h.2.1 c (List.mem_cons_self ..)
  exact absurd ((hline c (List.mem_cons_self ..)).symm.trans hc) Bool.false_ne_true

/-- On one line a plain text is written as it is. -/
theorem plainRuns_unbroken (hl : l.split = false) {rs : List Run} (hrs : Proper rs)
    (hline : ∀ c ∈ runChars rs, isWrittenBreak c = false) (p : Page) :
    plainRuns l rs p = p.put (runChars rs) := by
  induction rs generalizing p with
  | nil => rfl
  | cons r rs ih =>
    have ih := ih hrs.2.2.2 fun c hc => hline c (List.mem_append_right _ hc)
    rw [runChars_cons, put_append]
    cases r with
    | blanks n =>
      rw [plainRuns, hl, Bool.and_false, if_neg Bool.false_ne_true, ih]
      rfl
    | breaks cs => exact absurd hrs (not_proper_breaks hline)
    | word cs => exact ih _

/-- On one line a text in single quotes is written with its quotes doubled and nothing else changed.
-/
theorem singleRuns_unbroken (hl : l.split = false) {rs : List Run} (hrs : Proper rs)
    (hline : ∀ c ∈ runChars rs, isWrittenBreak c = false) (first : Bool) (p : Page) :
    singleRuns l first rs p = p.put ((runChars rs).flatMap quotedChar) := by
  induction rs generalizing first p with
  | nil => rfl
  | cons r rs ih =>
    have ih := ih hrs.2.2.2 fun c hc => hline c (List.mem_append_right _ hc)
    rw [runChars_cons, List.flatMap_append, put_append]
    cases r with
    | blanks n =>
      have hblanks : (Run.blanks n).chars.flatMap quotedChar = List.replicate n ' ' := by
        rw [Run.chars, List.flatMap_replicate]
        simp [quotedChar]
      rw [singleRuns, hl, Bool.and_false, Bool.false_and, Bool.false_and,
        if_neg Bool.false_ne_true, ih, hblanks]
    | breaks cs => exact absurd hrs (not_proper_breaks hline)
    | word cs => exact ih _ _

/-- On one line a text in double quotes is written point by point, each as itself or as its escape.
-/
theorem doublePoints_unbroken (hl : l.split = false) (first : Bool) (pending : List Char)
    (qs : List CodePoint) (p : Page) :
    doublePoints l first pending qs p = p.put (pending.reverse ++ qs.flatMap pointText) := by
  induction qs generalizing first pending p with
  | nil => rw [doublePoints, List.flatMap_nil, List.append_nil]
  | cons q qs ih =>
    rw [doublePoints, List.flatMap_cons, pointText]
    simp only [hl, Bool.and_false, Bool.false_and, Bool.false_eq_true, if_false]
    split
    · rw [ih, List.reverse_cons, List.append_assoc]
    · rw [ih, List.reverse_nil, List.nil_append, ← put_append, List.append_assoc]

variable {k : Text}

/-- A key on one line is not empty and holds no line breaks. -/
theorem of_isSimpleKey (hk : isSimpleKey k = true) :
    k.chars ≠ [] ∧ ∀ c ∈ k.chars, isWrittenBreak c = false := by
  simp only [isSimpleKey, isMultiline, Bool.and_eq_true, Bool.not_eq_true', List.any_eq_false,
    List.isEmpty_eq_false_iff] at hk
  exact ⟨hk.1.2, fun c hc => by simpa using hk.2 c hc⟩

/-- A key on one line is written as its text, with its quotes or escapes. -/
theorem writeKey_eq (hk : isSimpleKey k = true) (hp : p.blank = true) (n : Nat) :
    writeKey n k p = (p.put (keyText k)).insideText := by
  obtain ⟨-, hline⟩ := of_isSimpleKey hk
  obtain ⟨hproper, hchars⟩ := proper_runs k.chars
  rw [← hchars] at hline
  rw [writeKey, keyText]
  cases styleOf true k with
  | plain =>
    dsimp only [styled]
    rw [plain, if_pos hp, plainRuns_unbroken rfl hproper hline, hchars]
    rfl
  | single =>
    dsimp only [styled]
    rw [single, singleRuns_unbroken rfl hproper hline, hchars]
    simp [indicator, put, insideText, hp]
    omega
  | double =>
    dsimp only [styled]
    rw [double, doublePoints_unbroken rfl]
    simp [indicator, put, insideText, hp]
    omega

/-- Characters that are neither special nor line breaks take a column each. -/
theorem isInline_of_unbroken {c : Char} (hspecial : isSpecial c = false)
    (hbreak : isWrittenBreak c = false) : isInline c = true := by
  by_cases hblank : c = ' '
  · rw [hblank]
    rfl
  · exact (endsToken_of_word hspecial hblank hbreak).2

/-- Every character of a written key takes a column, so the length of the key is the distance that
its reader covers. -/
theorem isInline_keyText (hk : isSimpleKey k = true) : ∀ c ∈ keyText k, isInline c = true := by
  obtain ⟨-, hline⟩ := of_isSimpleKey hk
  have hsuits := suits_styleOf true k
  rw [keyText]
  -- Special characters and line breaks are excluded by the style, or escaped.
  cases hstyle : styleOf true k with
  | plain =>
    rw [hstyle] at hsuits
    obtain ⟨cs, rfl, -, hcs⟩ := hsuits
    rw [Text.chars_ofChars] at hline
    simp only [allowsPlain, Bool.and_eq_true, Bool.not_eq_true', List.any_eq_false] at hcs
    dsimp only
    rw [Text.chars_ofChars]
    exact fun c hc => isInline_of_unbroken (by simpa using hcs.1.2 c hc) (hline c hc)
  | single =>
    rw [hstyle] at hsuits
    obtain ⟨cs, rfl, hcs⟩ := hsuits
    rw [Text.chars_ofChars] at hline
    simp only [allowsSingle, Bool.and_eq_true, Bool.not_eq_true', List.any_eq_false] at hcs
    dsimp only
    simp only [Text.chars_ofChars, List.mem_cons, List.mem_append, List.mem_flatMap,
      List.not_mem_nil, or_false]
    rintro c ((rfl | ⟨d, hd, hc⟩) | rfl)
    · rfl
    · have hd' := isInline_of_unbroken (by simpa using hcs.2 d hd) (hline d hd)
      rw [quotedChar] at hc
      split at hc <;> simp at hc <;> rwa [hc]
    · rfl
  | double =>
    dsimp only
    simp only [List.mem_cons, List.mem_append, List.mem_flatMap, List.not_mem_nil, or_false]
    rintro c ((rfl | ⟨q, -, hc⟩) | rfl)
    · rfl
    · rw [pointText] at hc
      split at hc
      · next hq =>
        rw [List.mem_singleton.1 hc]
        cases q with
        | char d => exact (of_standsForItself hq).1
        | half n => cases hq
      · exact isInline_escaped q c hc
    · rfl

/-- The colon behind a key on one line marks the key. -/
theorem step_behind (tok : Token) (hp : p.fresh = true)
    (ho : Opens .blockMapping p.column i is ts is' ts')
    (hle : q.put [':'] ≤ e)
    (halone : ∀ ch ∈ (e.rest (q.put [':'])).head?, endsToken ch = true) :
    (e.behind i is p ts (e.place q) false tok).step =
      .ok (e.lexer p.column is' (q.indicator [':'] false false false)
        (.value :: tok :: .key :: ts')) := by
  have hrest : (e.place q).rest = ':' :: _ := rest_put hle
  have hends : endsToken ((e.place q).peekAt 1) = true := by
    rw [Cursor.peekAt, hrest, List.drop_succ_cons]
    exact endsToken_headD halone
  have hkey : (e.behind i is p ts (e.place q) false tok).key? =
      some ⟨ts.length, i == p.column, p.written.length, (e.place p).line, p.column⟩ := by
    simp [Lexer.key?, behind, Lexer.push, lexer, keysAt, hp]
  have hmark : (e.behind i is p ts (e.place q) false tok).forgetKey.insertAt ts.length [.key] =
      ⟨e.place q, i, is, 0, false, [], [tok, .key] ++ ts, _, rfl⟩ := by
    refine Lexer.eq_of_fields rfl rfl rfl rfl rfl ?_ ?_ <;>
      simp [behind, Lexer.push, lexer, keysAt, hp, Lexer.insertAt, Lexer.forgetKey]
  rw [Lexer.step_colon (Cursor.peek_of_rest hrest) hends, Lexer.value, hkey]
  dsimp only
  rw [hmark, if_neg (by simp), ho.enter (e.place q) false [tok, .key]]
  refine congrArg Except.ok (Lexer.eq_of_fields ?_ rfl rfl rfl ?_ rfl rfl)
  · exact (place_next_put hle rfl).trans (place_indicator_bare ..).symm
  · exact ((indicator_fresh [':'] false false false q).trans (Bool.and_false _)).symm

/-- A key is read as it was written, for its lines are not folded. -/
theorem read_key (hk : isSimpleKey k = true) (n : Nat) :
    (styleOf true k).read ⟨n, false⟩ k = k := by
  have hsuits := suits_styleOf true k
  cases hstyle : styleOf true k with
  | plain => rfl
  | single =>
    rw [hstyle] at hsuits
    obtain ⟨cs, rfl, -⟩ := hsuits
    obtain ⟨-, hline⟩ := of_isSimpleKey hk
    rw [Text.chars_ofChars] at hline
    have hnone : '\x85' ∉ cs := fun h => absurd (hline _ h) (by decide)
    rw [Style.read, Text.chars_ofChars, readSingle_eq_self.2 hnone]
  | double => exact congrArg Text.mk (readDouble_eq_self.2 fun h => absurd h Bool.false_ne_true)

/-- What a key on one line is written on. -/
structure WritesKey (e p : Page) (n : Nat) (k : Text) : Prop where
  /-- The key can stand on one line. -/
  simple : isSimpleKey k = true
  /-- Its colon is found. -/
  short : (keyText k).length ≤ keyReach
  /-- The line is fresh. -/
  fresh : p.fresh = true
  /-- Nothing has to be put in front. -/
  blank : p.blank = true
  /-- The colon is written. -/
  le : (writeKey n k p).put [':'] ≤ e
  /-- It stands alone. -/
  alone : ∀ ch ∈ (e.rest ((writeKey n k p).put [':'])).head?, endsToken ch = true

namespace WritesKey

/-- Its colon follows the key. -/
theorem rest_eq (h : WritesKey e p n k) :
    e.rest (writeKey n k p) = ':' :: e.rest ((writeKey n k p).put [':']) :=
  rest_put h.le

/-- The key is read up to its colon. -/
theorem step_key (is : List Int) (ts : List Token) (h : WritesKey e p n k) (hi : i ≤ p.column)
    (hn : p.column ≤ n) :
    TokenStep e p (writeKey n k p) i is ts
      (e.behind i is p ts (e.place (writeKey n k p)) false (textToken (styleOf true k) k)) := by
  have hlead : p.lead = p := if_pos h.blank
  have hcolon := h.rest_eq
  have hend : EndsScalar i e (writeKey n k p) (e.place (writeKey n k p)) false
      (styleOf true k) := by
    cases styleOf true k with
    | plain =>
      have htake : (e.place (writeKey n k p)).takeWhile (· == ' ') =
          ([], e.place (writeKey n k p)) :=
        Cursor.takeWhile_of_not (Cursor.mem_head?_of_rest hcolon rfl)
      refine ⟨?_, [], ?_, .inl rfl⟩
      · rw [hcolon, plainRun]
        simp only [endsToken_headD h.alone]
        rfl
      · rw [plainBlanks, htake]
        simp only [Cursor.peek_of_rest (c := e.place (writeKey n k p)) hcolon]
        rfl
    | single => exact ⟨rfl, rfl, by simp [hcolon]⟩
    | double => exact ⟨rfl, rfl⟩
  have hstep := step_styled (l := ⟨n + 2, false⟩) (p := p) is ts (suits_styleOf true k)
    (read_key h.simple (n + 2)) (i := i) (by dsimp only; omega)
    (Nat.succ_pos _) (by rw [hlead]; exact hi) (fun hdeep => absurd hdeep Bool.false_ne_true)
    ((le_put ..).trans h.le) hend
  rwa [hlead] at hstep

/-- Nothing happens between the key and its colon. -/
theorem prepared_key (h : WritesKey e p n k) (hi : i ≤ p.column) (tok : Token) :
    (e.behind i is p ts (e.place (writeKey n k p)) false tok).prepared =
      .ok (e.behind i is p ts (e.place (writeKey n k p)) false tok) := by
  have hcolon := h.rest_eq
  have hkey := writeKey_eq h.simple h.blank n
  have hgap : ∀ fuel, (e.behind i is p ts (e.place (writeKey n k p)) false tok).skipGap (fuel + 1) =
      e.behind i is p ts (e.place (writeKey n k p)) false tok := fun fuel =>
    skipGap_put (n := 0) rfl ((le_put ..).trans h.le)
      (Cursor.mem_head?_of_rest (c := e.place _) hcolon (by decide)) fuel
  have hline : (e.place (writeKey n k p)).line = (e.place p).line := by
    have hnone : (keyText k).reverse.countP isBreak = 0 := by
      refine List.countP_eq_zero.2 fun c hc => ?_
      have := isInline_keyText h.simple c (List.mem_reverse.1 hc)
      rw [isInline, Bool.and_eq_true, Bool.not_eq_true'] at this
      simp [this.1]
    rw [hkey]
    show (List.countP isBreak ((keyText k).reverse ++ p.written)) = _
    rw [List.countP_append, hnone, Nat.zero_add]
    rfl
  have hindex : (e.place (writeKey n k p)).index - p.written.length = (keyText k).length := by
    rw [hkey]
    simp [put, insideText]
  have hdrop : (e.behind i is p ts (e.place (writeKey n k p)) false tok).dropStaleKeys =
      .ok (e.behind i is p ts (e.place (writeKey n k p)) false tok) := by
    refine Lexer.dropStaleKeys_of_fresh fun x hx => ?_
    have hx : x ∈ e.keysAt i p ts := hx
    rw [keysAt, if_pos h.fresh] at hx
    rw [List.mem_singleton.1 hx, Lexer.isStale]
    show ((e.place p).line != (e.place (writeKey n k p)).line ||
      decide (keyReach < (e.place (writeKey n k p)).index - p.written.length)) = false
    rw [hline, hindex]
    simpa using h.short
  have hcolumn : i ≤ ((writeKey n k p).column : Int) := by
    rw [hkey]
    simp
    omega
  rw [Lexer.prepared, hgap, hdrop]
  exact congrArg Except.ok (Lexer.unwind_eq_self hcolumn)

end WritesKey

/-! ### What a run goes through -/

variable {rs : List Token}

/-- Before a block goes on, the reader passes over line ends and blanks up to its column, and ends
none of the blocks that stand at or before it. -/
theorem prepared_indent (hp : Follows e p n) (hi : i ≤ n) :
    (e.lexer i is p ts).prepared = .ok (e.lexer i is (p.indent n) ts) :=
  (prepared_lexer hp).trans (congrArg Except.ok (Lexer.unwind_eq_self hi))

/-- A key on a new line is what the block goes on with. -/
theorem WritesKey.follows (h : WritesKey e (p.indent n) n k) : Follows e p n := by
  have hcolumn := indent_column n p
  obtain ⟨hstart, hapart, ⟨ch, hfirst⟩, -⟩ :=
    h.step_key (i := n) [] [] (by simp [hcolumn]) (Nat.le_of_eq hcolumn)
  exact ⟨(le_put ..).trans (hfirst.trans ((le_put ..).trans h.le)), hstart, hapart⟩

/-- **A key on one line and its colon.** -/
theorem ends_key (h : WritesKey e (p.indent n) n k) (ho : Opens .blockMapping n i is ts is' ts')
    (hr : (e.lexer n is' ((writeKey n k (p.indent n)).indicator [':'] false false false)
      (.value :: textToken (styleOf true k) k :: .key :: ts')).Ends rs) :
    (e.lexer i is p ts).Ends rs := by
  have hcolumn := indent_column n p
  have hi : i ≤ ((p.indent n).column : Int) := by rw [hcolumn]; exact ho.le
  rw [← hcolumn] at ho
  obtain ⟨-, -, ⟨ch, hfirst⟩, hstep⟩ :=
    h.step_key is ts hi (Nat.le_of_eq hcolumn)
  have hcolon := step_behind (textToken (styleOf true k) k) h.fresh ho h.le h.alone
  rw [hcolumn] at hcolon
  refine .more (prepared_indent h.follows (hcolumn ▸ hi)) hstep
    (by cases styleOf true k <;> exact nofun) (left_lt hfirst ((le_put ..).trans h.le))
    (.more (h.prepared_key hi _) hcolon nofun ?_ hr)
  show (e.place (indicator [':'] false false false _)).left < _
  rw [place_indicator_bare]
  exact left_lt (le_refl _) h.le

variable {a b : Char} {tok : Token}

namespace Marks

/-- An indicator that ends no token and begins no comment begins a token. -/
theorem start (h : Marks e p a) (ha : endsToken a = false) (hcomment : a ≠ '#') :
    StartsToken (e.rest p) :=
  startsToken_of_peek (Cursor.peek_of_rest h.rest_eq) ha hcomment

/-- The line of an indicator separates no documents. -/
theorem apart (h : Marks e p a) : (e.place p).atSeparator = false := by
  have hne : ∀ d, endsToken d = false → ((e.place p).rest.take 3 == [d, d, d]) = false := by
    intro d hd
    rw [h.rest_eq]
    cases hrest : e.rest (p.indicator [a] true false true) with
    | nil => simp
    | cons ch cs =>
      have hch := h.alone ch (by rw [hrest]; rfl)
      have : ch ≠ d := by
        rintro rfl
        exact absurd (hd.symm.trans hch) Bool.false_ne_true
      simp [this]
  rw [Cursor.atSeparator, hne '-' (by decide), hne '.' (by decide)]
  rfl

/-- An indicator on a new line is what the block goes on with. -/
theorem follows (h : Marks e (p.indent n) a) (ha : endsToken a = false) (hcomment : a ≠ '#') :
    Follows e p n :=
  ⟨(le_indicator ..).trans h.le, h.start ha hcomment, h.apart⟩

/-- An indicator of a block. -/
theorem run (h : Marks e (p.indent n) a) (ha : endsToken a = false) (hcomment : a ≠ '#')
    (hi : i ≤ n) (hgoing : tok ≠ .streamEnd) (hstep : (e.lexer i is (p.indent n) ts).step =
      .ok (e.lexer n is' ((p.indent n).indicator [a] true false true) (tok :: ts')))
    (hr : (e.lexer n is' ((p.indent n).indicator [a] true false true) (tok :: ts')).Ends rs) :
    (e.lexer i is p ts).Ends rs := by
  refine .more (prepared_indent (h.follows ha hcomment) hi) hstep (by simpa [lexer] using hgoing)
    ?_ hr
  have hput := lead_put_le [a] false true (p.indent n)
  rw [lead, if_pos h.blank] at hput
  exact left_lt hput h.le

end Marks

/-- **The hyphen before an item.** -/
theorem ends_hyphen (h : Marks e (p.indent n) '-')
    (ho : Opens .blockSequence n i is ts is' ts')
    (hr : (e.lexer n is' ((p.indent n).indicator ['-'] true false true)
      (.blockEntry :: ts')).Ends rs) : (e.lexer i is p ts).Ends rs := by
  refine h.run (by decide) (by decide) ho.le (by simp) ?_ hr
  have hcolumn := indent_column n p
  rw [← hcolumn] at ho
  have hstep := step_blockEntry h ho h.apart
  rwa [hcolumn] at hstep

/-- **The question mark before a key.** -/
theorem ends_questionMark (h : Marks e (p.indent n) '?')
    (ho : Opens .blockMapping n i is ts is' ts')
    (hr : (e.lexer n is' ((p.indent n).indicator ['?'] true false true) (.key :: ts')).Ends rs) :
    (e.lexer i is p ts).Ends rs := by
  refine h.run (by decide) (by decide) ho.le (by simp) ?_ hr
  have hcolumn := indent_column n p
  rw [← hcolumn] at ho
  have hstep := step_blockKey h ho
  rwa [hcolumn] at hstep

/-- **The colon behind a key of its own.** -/
theorem ends_colon (h : Marks e (p.indent n) ':')
    (hr : (e.lexer n is ((p.indent n).indicator [':'] true false true) (.value :: ts)).Ends rs) :
    (e.lexer n is p ts).Ends rs := by
  refine h.run (by decide) (by decide) (Int.le_refl _) (by simp) ?_ hr
  have hstep : (e.lexer (p.indent n).column is (p.indent n) ts).step =
      .ok (e.lexer (p.indent n).column is ((p.indent n).indicator [':'] true false true)
        (.value :: ts)) := step_value h .same
  rwa [indent_column] at hstep

/-! ### Empty collections -/

/-- The page behind an empty collection. -/
def brackets (a b : Char) (p : Page) : Page :=
  (p.indicator [a] true true false).indicator [b] false false false

/-- An empty collection is two characters behind the blank that it may need. -/
theorem brackets_eq (a b : Char) (p : Page) :
    p.brackets a b = { p.lead.put [a, b] with blank := false, fresh := false } := by
  cases hblank : p.blank <;> simp [brackets, indicator, lead, put, hblank]

/-- The brackets around the items of a collection, and their tokens. -/
inductive Brackets : Char → Char → Token → Token → Prop
  /-- Those of a list. -/
  | list : Brackets '[' ']' .flowSequence .flowSequenceEnd
  /-- Those of a mapping. -/
  | map : Brackets '\x7b' '\x7d' .flowMapping .flowMappingEnd

namespace Brackets

variable {opening closing : Token}

/-- At the opening bracket a collection in brackets begins. -/
theorem step_open (h : Brackets a b opening closing) (hs : s.cursor.peek = a) :
    s.step = s.openFlow opening := by
  cases h <;> simp [Lexer.step, hs, endMark]

/-- At the closing bracket it ends. -/
theorem step_close (h : Brackets a b opening closing) (hs : s.cursor.peek = b) :
    s.step = s.closeFlow closing := by
  cases h <;> simp [Lexer.step, hs, endMark]

/-- Neither bracket ends the stream. -/
theorem going (h : Brackets a b opening closing) : opening ≠ .streamEnd ∧ closing ≠ .streamEnd := by
  cases h <;> exact ⟨nofun, nofun⟩

/-- Both brackets take a column. -/
theorem inline (h : Brackets a b opening closing) : isInline a = true ∧ isInline b = true := by
  cases h <;> exact ⟨rfl, rfl⟩

/-- Both brackets begin a token. -/
theorem startsToken (h : Brackets a b opening closing) (cs : List Char) :
    StartsToken (a :: cs) ∧ StartsToken (b :: cs) := by
  cases h <;> constructor <;> rintro _ ⟨⟩ <;> decide

/-- Where both brackets are written, the opening one is. -/
theorem put_opening_le (a b : Char) (p : Page) : p.lead.put [a] ≤ p.lead.put [a, b] := by
  rw [show [a, b] = [a] ++ [b] from rfl, put_append]
  exact le_put ..

/-- Behind the opening bracket the closing one follows at once. -/
theorem rest_put_opening (hle : p.lead.put [a, b] ≤ e) :
    e.rest (p.lead.put [a]) = b :: e.rest (p.lead.put [a, b]) :=
  have hclosing : (p.lead.put [a]).put [b] ≤ e := hle
  rest_put hclosing

/-- The reader between the brackets of an empty collection. -/
def between (e : Page) (i : Int) (is : List Int) (p : Page) (ts : List Token) (a : Char)
    (opening : Token) : Lexer :=
  ⟨e.place (p.lead.put [a]), i, is, 1, true, e.keysAt i p.lead ts, opening :: ts, _, rfl⟩

/-- The reader behind an empty collection. -/
def beyond (e : Page) (i : Int) (is : List Int) (p : Page) (ts : List Token) (a b : Char)
    (opening closing : Token) : Lexer :=
  ⟨e.place (p.lead.put [a, b]), i, is, 0, false, e.keysAt i p.lead ts, closing :: opening :: ts, _,
    rfl⟩

/-- The opening bracket is read, and noted as a possible key where the line is fresh. -/
theorem step_lead (h : Brackets a b opening closing) (hput : p.lead.put [a] ≤ e) :
    (e.lexer i is p.lead ts).step = .ok (between e i is p ts a opening) := by
  have hrest : e.rest p.lead = a :: e.rest (p.lead.put [a]) := rest_put hput
  rw [h.step_open (Cursor.peek_of_rest hrest), Lexer.openFlow, noteKey_lexer]
  exact congrArg Except.ok (Lexer.eq_of_fields (place_next_put hput h.inline.1) rfl rfl rfl rfl rfl
    rfl)

/-- Between the brackets nothing is passed over, and no block ends. -/
theorem prepared_between (h : Brackets a b opening closing) (hle : p.lead.put [a, b] ≤ e) :
    (between e i is p ts a opening).prepared = .ok (between e i is p ts a opening) := by
  have hput : p.lead.put [a] ≤ e := (put_opening_le a b p).trans hle
  have hgap : ∀ fuel, (between e i is p ts a opening).skipGap (fuel + 1) =
      between e i is p ts a opening :=
    skipGap_put (s := between e i is p ts a opening) (n := 0) (p := p.lead.put [a]) rfl hput
      (rest_put_opening hle ▸ (h.startsToken _).2)
  have hdrop : (between e i is p ts a opening).dropStaleKeys =
      .ok (between e i is p ts a opening) := by
    refine Lexer.dropStaleKeys_of_fresh fun x (hx : x ∈ e.keysAt i p.lead ts) => ?_
    rw [keysAt] at hx
    split at hx
    · rw [List.mem_singleton.1 hx, Lexer.isStale]
      show ((e.place p.lead).line != (e.place (p.lead.put [a])).line ||
        decide (keyReach < (e.place (p.lead.put [a])).index - p.lead.written.length)) = false
      have hbreak : isBreak a = false := by cases h <;> rfl
      simp [put, place, hbreak, keyReach]
    · cases hx
  rw [Lexer.prepared, hgap, hdrop]
  rfl

/-- The closing bracket is read, and the reader is outside of brackets again. -/
theorem step_between (h : Brackets a b opening closing) (hle : p.lead.put [a, b] ≤ e) :
    (between e i is p ts a opening).step = .ok (beyond e i is p ts a b opening closing) := by
  have hkeep : (between e i is p ts a opening).dropKey = .ok (between e i is p ts a opening) := by
    have hkey : (between e i is p ts a opening).key? = none := by
      rw [Lexer.key?, between, keysAt]
      split <;> rfl
    rw [Lexer.dropKey, hkey]
  rw [h.step_close (Cursor.peek_of_rest (rest_put_opening hle)), Lexer.closeFlow, hkeep]
  exact congrArg Except.ok (Lexer.eq_of_fields
    (place_next_put (p := p.lead.put [a]) hle h.inline.2) rfl rfl rfl rfl rfl rfl)

/-- **An empty collection is two tokens.** -/
theorem run (h : Brackets a b opening closing) (hi : i < p.lead.column)
    (hq : Follows e (p.brackets a b) m)
    (hr : (e.lexer i is (p.brackets a b) (closing :: opening :: ts)).Ends rs) :
    (e.lexer i is p ts).Ends rs := by
  have hle : p.lead.put [a, b] ≤ e := (brackets_eq a b p).ge.trans ((le_indent ..).trans hq.le)
  have hput : p.lead.put [a] ≤ e := (put_opening_le a b p).trans hle
  have hrest : e.rest p.lead = a :: e.rest (p.lead.put [a]) := rest_put hput
  refine .more (prepared_lead ((le_put ..).trans hput) (hrest ▸ (h.startsToken _).1)
    (Int.le_of_lt hi)) (h.step_lead hput) ?_ (left_lt (le_refl _) hput)
    (.more (h.prepared_between hle) (h.step_between hle) ?_
      (left_lt (q := p.lead.put [a, b]) (le_refl _) hle) ?_)
  · simpa [between] using h.going.1
  · simpa [beyond] using h.going.2
  · have hplace : e.place (p.brackets a b) = e.place (p.lead.put [a, b]) := by rw [brackets_eq]; rfl
    refine hr.congr (prepared_forgotten (p := p.lead) hq ?_ ?_ hi
      (show _ = e.keysAt i p.lead ts from rfl) rfl (.inl hplace.symm)) (prepared_lexer hq)
    · rw [brackets_eq]
    · exact (le_put ..).trans (brackets_eq a b p).ge

end Brackets

end Page
end Yaml
end WorkflowKit
