/-
# The next token of a page

What the reader makes of the token that it comes to on a page.  An indicator of a block begins a
block if it stands to the right of the block around it (`Opens`).  A scalar is noted as a key where
a key may begin; it counts as one if a colon follows on its line (`step_key`), and is forgotten if
the line ends (`prepared_forgotten`).
-/

import WorkflowKit.Proofs.Value.Text
import WorkflowKit.Proofs.Yaml.Double
import WorkflowKit.Proofs.Yaml.Plain
import WorkflowKit.Proofs.Yaml.Scan
import WorkflowKit.Proofs.Yaml.Single

namespace WorkflowKit
namespace Yaml

open Page

/-- The end of the text ends a token, as blanks and line ends do. -/
theorem endsToken_headD {cs : List Char} (h : ∀ ch ∈ cs.head?, endsToken ch = true) :
    endsToken (cs.headD endMark) = true := by
  cases cs with
  | nil => rfl
  | cons ch cs => exact h ch rfl

namespace Lexer

variable {s t : Lexer}

/-- A reader is determined by these fields; the number of its tokens, which it carries as well,
follows from them. -/
theorem eq_of_fields (hcursor : s.cursor = t.cursor) (hindent : s.indent = t.indent)
    (houter : s.outer = t.outer) (hflow : s.flow = t.flow) (hallow : s.allowKey = t.allowKey)
    (hkeys : s.keys = t.keys) (htokens : s.tokens = t.tokens) : s = t := by
  obtain ⟨c, i, is, n, b, ks, ts, count, hcount⟩ := s
  obtain ⟨c', i', is', n', b', ks', ts', count', hcount'⟩ := t
  simp only at hcursor hindent houter hflow hallow hkeys htokens
  subst hcursor hindent houter hflow hallow hkeys htokens hcount hcount'
  rfl

/-! ### Which token begins with a character -/

/-- At the end of the text the stream is ended. -/
theorem step_end (h : s.cursor.peek = endMark) : s.step = s.endStream := by
  simp [step, h]

/-- At a single quote a scalar in single quotes is read. -/
theorem step_singleQuote (h : s.cursor.peek = '\x27') : s.step = s.quoted false := by
  simp [step, h, endMark]

/-- At a double quote a scalar in double quotes is read. -/
theorem step_doubleQuote (h : s.cursor.peek = '\x22') : s.step = s.quoted true := by
  simp [step, h, endMark]

/-- A hyphen that stands alone begins an item, unless it is part of a line that separates documents.
-/
theorem step_hyphen (h : s.cursor.peek = '-') (hends : endsToken (s.cursor.peekAt 1) = true)
    (hapart : s.cursor.atSeparator = false) : s.step = s.blockEntry := by
  simp [step, h, hends, hapart, endMark]

/-- A question mark that stands alone begins a key. -/
theorem step_questionMark (h : s.cursor.peek = '?')
    (hends : endsToken (s.cursor.peekAt 1) = true) : s.step = s.blockKey := by
  simp [step, h, hends, endMark]

/-- A colon that stands alone begins a value. -/
theorem step_colon (h : s.cursor.peek = ':') (hends : endsToken (s.cursor.peekAt 1) = true) :
    s.step = s.value := by
  simp [step, h, hends, endMark]

/-- Outside brackets, a character that can begin a plain scalar does begin one. -/
theorem step_plain {ch : Char} (h : BeginsPlain ch s.cursor) (hflow : s.flow = 0) :
    s.step = s.plain := by
  obtain ⟨hpeek, hinside, hunmarked, hjoined, hapart⟩ := h
  have hend := (of_endsToken hinside).2.2.2
  rw [leadingIndicators_eq] at hunmarked
  have hstarts : s.startsPlain = true := by
    by_cases hch : ch = '-' ∨ ch = '?' ∨ ch = ':'
    · have hfollowing := hjoined hch
      simp only [startsPlain, hpeek, hflow, hfollowing]
      rcases hch with rfl | rfl | rfl <;> simp
    · simp_all [startsPlain]
  simp only [List.contains_cons, Bool.or_eq_false_iff, beq_eq_false_iff_ne] at hunmarked
  by_cases hch : ch = '-' ∨ ch = '?' ∨ ch = ':'
  · have hfollowing := hjoined hch
    rcases hch with rfl | rfl | rfl <;>
      simp [step, hpeek, hflow, hfollowing, hapart, hstarts, endMark]
  · rw [not_or, not_or] at hch
    simp [step, hpeek, hflow, hapart, hstarts, hend, hunmarked, hch]

end Lexer

/-! ### Indicators of blocks -/

/-- Whether a token at column `n` begins a block in the one at column `i`, which is marked by `t`:
the blocks around it and the tokens change from `is` and `ts` to `is'` and `ts'`. -/
inductive Opens (t : Token) (n : Nat) : Int → List Int → List Token → List Int → List Token → Prop
  /-- The block goes on. -/
  | same {is : List Int} {ts : List Token} : Opens t n n is ts is ts
  /-- A block begins. -/
  | new {i : Int} {is : List Int} {ts : List Token} (right : i < n) :
    Opens t n i is ts (i :: is) (t :: ts)

variable {t : Token} {n m : Nat} {i : Int} {is is' : List Int} {ts ts' : List Token}
  {e p q : Page} {s : Lexer}

namespace Opens

/-- A block never begins to the left of the one around it. -/
theorem le (h : Opens t n i is ts is' ts') : i ≤ n := by
  cases h with
  | same => exact Int.le_refl _
  | new right => exact Int.le_of_lt right

/-- Whatever begins, the outermost indentation stays at the bottom. -/
theorem base (h : Opens t n i is ts is' ts') (hbase : -1 ∈ i :: is) : -1 ∈ (n : Int) :: is' := by
  cases h with
  | same => exact hbase
  | new right => exact List.mem_cons_of_mem _ hbase

/-- A block begins before the tokens `us` if these stand on the line of its first one. -/
theorem enter (h : Opens t n i is ts is' ts') (c : Cursor) (b : Bool) (us : List Token) :
    (⟨c, i, is, 0, b, [], us ++ ts, _, rfl⟩ : Lexer).enter n t ts.length =
      ⟨c, n, is', 0, b, [], us ++ ts', _, rfl⟩ := by
  cases h with
  | same => exact if_neg (Int.lt_irrefl _)
  | new right =>
    refine (if_pos right).trans (Lexer.eq_of_fields rfl rfl rfl rfl rfl rfl ?_)
    simp [Lexer.insertAt]

end Opens

namespace Page

/-- Behind an indicator of a block, which stands where a token may begin. -/
theorem place_next_indicator {c : Char} (hblank : p.blank = true) (hc : isInline c = true)
    (h : p.indicator [c] true false true ≤ e) :
    (e.place p).next = e.place (p.indicator [c] true false true) := by
  have hput : p.put [c] ≤ e := by
    refine le_trans ?_ h
    have := lead_put_le [c] false true p
    rwa [lead, if_pos hblank] at this
  rw [place_next_put hput hc, place_indicator, lead, if_pos hblank]

/-- Behind an indicator the line is fresh if it was and the indicator leaves it so. -/
theorem indicator_fresh (cs : List Char) (needsBlank blank fresh : Bool) (p : Page) :
    (p.indicator cs needsBlank blank fresh).fresh = (p.fresh && fresh) := by
  rw [indicator]
  split <;> rfl

/-- Behind an indicator the reader has its token, and stands at the page that holds the indicator.
-/
theorem pushPast_lexer {b : Bool} (hq : (e.place p).next = e.place q) (hb : q.fresh = b) :
    ({ e.lexer i is p ts with allowKey := b }.pushPast t 1) = e.lexer i is q (t :: ts) := by
  subst hb
  simp [Lexer.pushPast, Lexer.push, lexer, Cursor.skip, hq]

variable {c : Char}

/-- What an indicator that begins a line, or goes on with its start, is written on. -/
structure Marks (e p : Page) (c : Char) : Prop where
  /-- The line is fresh. -/
  fresh : p.fresh = true
  /-- Nothing has to be put in front. -/
  blank : p.blank = true
  /-- The indicator is written. -/
  le : p.indicator [c] true false true ≤ e
  /-- It stands alone. -/
  alone : ∀ ch ∈ (e.rest (p.indicator [c] true false true)).head?, endsToken ch = true

namespace Marks

/-- One step leads behind the indicator. -/
theorem next (h : Marks e p c) (hc : isInline c = true) :
    (e.place p).next = e.place (p.indicator [c] true false true) :=
  place_next_indicator h.blank hc h.le

/-- The line stays fresh behind the indicator of a block, so another one may follow on it. -/
theorem indicator_fresh (h : Marks e p c) : (p.indicator [c] true false true).fresh = true := by
  rw [Page.indicator_fresh, h.fresh, Bool.and_true]

/-- The reader has the indicator before it. -/
theorem rest_eq (h : Marks e p c) :
    (e.place p).rest = c :: e.rest (p.indicator [c] true false true) := by
  have hput : p.put [c] ≤ e := by
    refine le_trans ?_ h.le
    have := lead_put_le [c] false true p
    rwa [lead, if_pos h.blank] at this
  have hwritten := indicator_written [c] false true p
  rw [lead, if_pos h.blank] at hwritten
  exact rest_eq_of_le h.le hwritten

/-- What follows the indicator ends a token, so the indicator stands alone. -/
theorem endsToken_peekAt (h : Marks e p c) : endsToken ((e.place p).peekAt 1) = true := by
  rw [Cursor.peekAt, h.rest_eq, List.drop_succ_cons, List.drop_zero]
  exact endsToken_headD h.alone

end Marks

/-- An indicator begins its block where a key may begin. -/
theorem opening_lexer (hp : p.fresh = true) (ho : Opens t p.column i is ts is' ts')
    (f : Lexer → Except Fault Lexer) :
    (if (e.lexer i is p ts).flow ≠ 0 then pure (e.lexer i is p ts) >>= f
      else if (!(e.lexer i is p ts).allowKey) = true then .error .malformed >>= f
      else pure ((e.lexer i is p ts).enter (e.lexer i is p ts).cursor.column t
        (e.lexer i is p ts).count) >>= f) = f (e.lexer p.column is' p ts') := by
  have henter : (e.lexer i is p ts).enter (e.lexer i is p ts).cursor.column t
      (e.lexer i is p ts).count = e.lexer p.column is' p ts' :=
    ho.enter (e.place p) p.fresh []
  rw [if_neg (by simp [lexer]), if_neg (by simp [lexer, hp]), henter]
  rfl

/-- The hyphen before an item. -/
theorem step_blockEntry (hp : Marks e p '-') (ho : Opens .blockSequence p.column i is ts is' ts')
    (hapart : (e.place p).atSeparator = false) :
    (e.lexer i is p ts).step =
      .ok (e.lexer p.column is' (p.indicator ['-'] true false true) (.blockEntry :: ts')) := by
  rw [Lexer.step_hyphen (Cursor.peek_of_rest hp.rest_eq) hp.endsToken_peekAt hapart,
    Lexer.blockEntry, opening_lexer hp.fresh ho]
  exact congrArg _ (pushPast_lexer (hp.next rfl) hp.indicator_fresh)

/-- The question mark before a key. -/
theorem step_blockKey (hp : Marks e p '?') (ho : Opens .blockMapping p.column i is ts is' ts') :
    (e.lexer i is p ts).step =
      .ok (e.lexer p.column is' (p.indicator ['?'] true false true) (.key :: ts')) := by
  rw [Lexer.step_questionMark (Cursor.peek_of_rest hp.rest_eq) hp.endsToken_peekAt, Lexer.blockKey,
    opening_lexer hp.fresh ho]
  exact congrArg _ (pushPast_lexer (hp.next rfl) hp.indicator_fresh)

/-- The colon that begins a line. -/
theorem step_value (hp : Marks e p ':') (ho : Opens .blockMapping p.column i is ts is' ts') :
    (e.lexer i is p ts).step =
      .ok (e.lexer p.column is' (p.indicator [':'] true false true) (.value :: ts')) := by
  have hkey : (e.lexer i is p ts).key? = none := rfl
  rw [Lexer.step_colon (Cursor.peek_of_rest hp.rest_eq) hp.endsToken_peekAt, Lexer.value, hkey]
  dsimp only
  rw [opening_lexer hp.fresh ho]
  exact congrArg _ (pushPast_lexer (hp.next rfl) hp.indicator_fresh)

end Page

/-! ### Scalars -/

/-- Whether a text can be written in a style. -/
def Style.Suits : Style → Text → Prop
  | .plain, t => ∃ cs, t = .ofChars cs ∧ cs ≠ [] ∧ allowsPlain cs = true
  | .single, t => ∃ cs, t = .ofChars cs ∧ allowsSingle cs = true
  | .double, _ => True

/-- What a text that is written in a style is read as. -/
def Style.read (l : Layout) (t : Text) : Style → Text
  | .plain => t
  | .single => .ofChars (readSingle t.chars)
  | .double => ⟨readDouble l t.points⟩

/-- The style that is chosen for a text suits it. -/
theorem suits_styleOf (asKey : Bool) (t : Text) : (styleOf asKey t).Suits t := by
  rw [styleOf]
  split
  · trivial
  · next cs hcs =>
    have ht := Text.chars?_eq_some hcs
    split
    · next hplain =>
      simp only [Bool.and_eq_true, Bool.not_eq_true', List.isEmpty_eq_false_iff] at hplain
      exact ⟨cs, ht, hplain.1.2, hplain.2⟩
    · split
      · next hsingle =>
        rw [Bool.and_eq_true] at hsingle
        exact ⟨cs, ht, hsingle.1⟩
      · trivial

/-- The token of a text that is written in a style and read as it is. -/
def textToken (style : Style) (t : Text) : Token := .scalar (style == .plain) t

/-- Whether a scalar of a style ends behind a page: the reader stands at `c`, and `broken` tells
whether a line has ended before. -/
def EndsScalar (i : Int) (e q : Page) (c : Cursor) (broken : Bool) : Style → Prop
  | .plain => EndsPlain ⟨false, i + 1⟩ e q c broken
  | .single => c = e.place q ∧ broken = false ∧ ∀ ch ∈ (e.rest q).head?, ch ≠ '\x27'
  | .double => c = e.place q ∧ broken = false

namespace Page

/-- The keys that may begin at a place: one, where the line is fresh. -/
def keysAt (e : Page) (i : Int) (p : Page) (ts : List Token) : List (Nat × KeyStart) :=
  if p.fresh then
    [(0, ⟨ts.length, i == p.column, p.written.length, (e.place p).line, p.column⟩)]
  else []

/-- The reader behind a scalar. -/
def behind (e : Page) (i : Int) (is : List Int) (p : Page) (ts : List Token) (c : Cursor)
    (broken : Bool) (t : Token) : Lexer :=
  { e.lexer i is p ts with keys := e.keysAt i p ts, cursor := c, allowKey := broken }.push t

/-- Before a scalar the reader notes that a key may begin, where the line is fresh. -/
theorem noteKey_lexer : (e.lexer i is p ts).noteKey =
    .ok { e.lexer i is p ts with keys := e.keysAt i p ts } := by
  rw [Lexer.noteKey, keysAt]
  cases hp : p.fresh with
  | true =>
    refine (if_pos (by simp [lexer, hp])).trans ?_
    rw [if_pos rfl]
    rfl
  | false =>
    refine (if_neg (by simp [lexer, hp])).trans ?_
    rw [if_neg Bool.false_ne_true]
    rfl

variable {l : Layout} {t : Text} {style : Style} {c : Cursor} {broken : Bool}

/-- A scalar in quotes is read to its closing quote, and noted as a possible key. -/
theorem step_quoted {double : Bool} {ps : List CodePoint}
    (hscan : quotedScalar double (e.place p) = .ok (ps, c)) :
    (e.lexer i is p ts).quoted double = .ok (e.behind i is p ts c false (.scalar false ⟨ps⟩)) := by
  rw [Lexer.quoted, Lexer.keyToken, noteKey_lexer]
  show ((quotedScalar double (e.place p) >>= fun x => pure (Token.scalar false ⟨x.1⟩, x.2)) >>= _) =
    _
  rw [hscan]
  rfl

/-- A plain scalar is read to its end, and noted as a possible key. -/
theorem step_unquoted {cs : List Char}
    (hscan : plainScalar ⟨false, i + 1⟩ (e.place p) = (cs, c, broken)) :
    (e.lexer i is p ts).plain =
      .ok (e.behind i is p ts c broken (.scalar true (.ofChars cs))) := by
  have hscan' : plainScalar ⟨(e.lexer i is p ts).flow != 0, (e.lexer i is p ts).indent + 1⟩
      (e.lexer i is p ts).cursor = (cs, c, broken) := hscan
  rw [Lexer.plain, noteKey_lexer]
  simp only [bind, Except.bind]
  rw [hscan']
  rfl

/-- What the reader makes of the token at `p`, which is written up to `q`. -/
structure TokenStep (e p q : Page) (i : Int) (is : List Int) (ts : List Token) (u : Lexer) :
    Prop where
  /-- A token stands there. -/
  start : StartsToken (e.rest p)
  /-- It is no separator of documents. -/
  apart : (e.place p).atSeparator = false
  /-- It is not empty. -/
  first : ∃ ch, p.put [ch] ≤ q
  /-- The state behind it. -/
  step : (e.lexer i is p ts).step = .ok u

/-- A character that ends no token and begins no comment begins a token. -/
theorem startsToken_of_peek {ch : Char} (h : (e.place p).peek = ch) (hch : endsToken ch = false)
    (hcomment : ch ≠ '#') : StartsToken (e.rest p) := by
  obtain ⟨-, hblank, hbreak, -⟩ := of_endsToken hch
  intro d hd
  obtain ⟨ds, hds⟩ := List.head?_eq_some_iff.1 (Option.mem_def.1 hd)
  have hpeek : (e.place p).peek = d := Cursor.peek_of_rest hds
  obtain rfl := hpeek.symm.trans h
  exact ⟨hblank, hcomment, hbreak⟩

/-- A line that separates documents begins with a hyphen or a point. -/
theorem not_atSeparator_of_peek {ch : Char} (h : (e.place p).peek = ch) (hend : ch ≠ endMark)
    (hhyphen : ch ≠ '-') (hpoint : ch ≠ '.') : (e.place p).atSeparator = false :=
  Cursor.not_atSeparator (Cursor.rest_of_peek h hend) hhyphen hpoint

/-- A scalar in single quotes begins with its quote, behind the blank that it may need. -/
theorem lead_put_le_single (l : Layout) (cs : List Char) (p : Page) :
    p.lead.put ['\x27'] ≤ p.single l cs :=
  (lead_put_le ..).trans ((le_singleRuns ..).trans (le_indicator ..))

/-- A scalar in double quotes begins with its quote, behind the blank that it may need. -/
theorem lead_put_le_double (l : Layout) (t : Text) (p : Page) :
    p.lead.put ['"'] ≤ p.double l t := by
  have hpoints := le_doublePoints l true [] t.points (p.indicator ['"'] true false false)
  exact (lead_put_le ..).trans (hpoints.trans (le_indicator ..))

/-- **The token of a text.** -/
theorem step_styled (is : List Int) (ts : List Token) (hstyle : style.Suits t)
    (hread : style.read l t = t) (hindent : i + 1 ≤ l.indent) (hl : 0 < l.indent)
    (hcolumn : i ≤ p.lead.column) (hdeep : l.isDeep = true → l.indent ≤ p.column + 1)
    (h : p.styled style l t ≤ e) (hend : EndsScalar i e (p.styled style l t) c broken style) :
    TokenStep e p.lead (p.styled style l t) i is ts
      (e.behind i is p.lead ts c broken (textToken style t)) := by
  -- The styles differ in the character that they begin with and in who reads them.
  cases style with
  | plain =>
    obtain ⟨cs, rfl, hne, hcs⟩ := hstyle
    have hchars : (Text.ofChars cs).chars = cs := Text.chars_ofChars cs
    rw [styled, hchars] at h hend
    obtain ⟨ch, hbegins, hfirst⟩ := beginsPlain hne hcs h hend.stop
    have hscan := plainScalar_plain hne hcs rfl hindent hl (by dsimp only; omega) h hend
    have hcomment : ch ≠ '#' := by
      rintro rfl
      exact absurd hbegins.unmarked (by decide)
    refine ⟨startsToken_of_peek hbegins.peek hbegins.inside hcomment, hbegins.apart,
      ⟨ch, by rwa [styled, hchars]⟩, ?_⟩
    rw [Lexer.step_plain hbegins rfl, step_unquoted hscan]
    rfl
  | single =>
    obtain ⟨cs, rfl, hcs⟩ := hstyle
    obtain ⟨rfl, rfl, hclose⟩ := hend
    have hchars : (Text.ofChars cs).chars = cs := Text.chars_ofChars cs
    rw [styled, hchars] at h hclose ⊢
    rw [Style.read, hchars] at hread
    obtain ⟨hpeek, hscan⟩ := quotedScalar_single hl hcs h hclose
    refine ⟨startsToken_of_peek hpeek (by decide) (by decide),
      not_atSeparator_of_peek hpeek (by decide) (by decide) (by decide),
      ⟨_, lead_put_le_single l _ p⟩, ?_⟩
    rw [Lexer.step_singleQuote hpeek, step_quoted hscan, textToken, ← hread]
    rfl
  | double =>
    obtain ⟨rfl, rfl⟩ := hend
    obtain ⟨hpeek, hscan⟩ := quotedScalar_double hl t hdeep h
    refine ⟨startsToken_of_peek hpeek (by decide) (by decide),
      not_atSeparator_of_peek hpeek (by decide) (by decide) (by decide),
      ⟨_, lead_put_le_double l t p⟩, ?_⟩
    rw [Lexer.step_doubleQuote hpeek, step_quoted hscan, textToken]
    rw [Style.read] at hread
    rw [hread]
    rfl

/-! ### Texts as values -/

/-- The blank before a token is passed over. -/
theorem prepared_lead (h : p.lead ≤ e) (hnext : StartsToken (e.rest p.lead))
    (hi : i ≤ p.lead.column) : (e.lexer i is p ts).prepared = .ok (e.lexer i is p.lead ts) := by
  obtain ⟨n, hlead⟩ : ∃ n, p.lead = p.put (List.replicate n ' ') := by
    rw [lead]
    split
    · exact ⟨0, rfl⟩
    · exact ⟨1, rfl⟩
  have hgap : (e.lexer i is p ts).skipGap ((e.lexer i is p ts).cursor.left + 1) =
      e.lexer i is p.lead ts := by
    rw [hlead] at h hnext ⊢
    exact skipGap_put rfl h hnext _
  have hdrop : (e.lexer i is p.lead ts).dropStaleKeys = .ok (e.lexer i is p.lead ts) :=
    Lexer.dropStaleKeys_of_fresh fun _ hk => absurd hk List.not_mem_nil
  rw [Lexer.prepared, hgap, hdrop]
  exact congrArg Except.ok (Lexer.unwind_eq_self hi)

/-- What stands further on leaves less to read. -/
theorem left_lt {ch : Char} (hput : p.put [ch] ≤ q) (h : q ≤ e) :
    (e.place q).left < (e.place p).left := by
  have hrest := rest_put (hput.trans h)
  have hle := rest_length_le (e := e) hput
  rw [place_left, place_left, hrest, List.length_append, List.length_singleton]
  omega

/-- Behind a plain scalar the line is not fresh. -/
theorem plainRuns_fresh (l : Layout) (rs : List Run) (hp : p.fresh = false) :
    (plainRuns l rs p).fresh = false := by
  induction rs generalizing p with
  | nil => exact hp
  | cons r rs ih =>
    cases r with
    | blanks n =>
      rw [plainRuns]
      split
      · exact ih rfl
      · exact ih hp
    | breaks cs => exact ih rfl
    | word cs => exact ih hp

/-- Behind a scalar the line is not fresh, so no key can begin on it. -/
theorem styled_fresh (style : Style) (l : Layout) (t : Text) (p : Page) :
    (p.styled style l t).fresh = false := by
  cases style with
  | plain => exact plainRuns_fresh l _ rfl
  | single => exact (indicator_fresh ..).trans (Bool.and_false _)
  | double => exact (indicator_fresh ..).trans (Bool.and_false _)

/-- A page whose line is not fresh goes on with the end of the line. -/
theorem Follows.rest_eq (h : Follows e q m) (hq : q.fresh = false) :
    ∃ cs, e.rest q = '\n' :: cs := by
  have hle := h.le
  rw [indent_eq_linesDown (.inl hq)] at hle
  exact ⟨_, rest_linesDown hle⟩

/-- A scalar ends with its line, if what follows is not indented more than the block around it. -/
theorem endsScalar_follows (h : Follows e q m) (hq : q.fresh = false) (hm : (m : Int) ≤ i)
    (style : Style) : ∃ c broken, EndsScalar i e q c broken style ∧
      (c = e.place q ∨ c = e.place (q.indent m) ∧ broken = true) := by
  obtain ⟨cs, hrest⟩ := h.rest_eq hq
  cases style with
  | plain =>
    have hdown := indent_eq_linesDown (n := m) (.inl hq)
    obtain ⟨hle, hstart, hapart⟩ := h
    rw [hdown] at hle hstart hapart
    have hsep : (e.place (q.endLine '\n')).atSeparator = false := by
      cases m with
      | zero => exact hapart
      | succ m =>
        have hblank : e.rest (q.endLine '\n') = _ := rest_put (p := q.endLine '\n') hle
        rw [List.replicate_succ, List.cons_append] at hblank
        exact Cursor.not_atSeparator (c := e.place (q.endLine '\n')) hblank (by decide) (by decide)
    have hblanks := plainBlanks_linesDown hle (fun ch hch => ⟨(hstart ch hch).1,
      (hstart ch hch).2.2⟩) hsep
    refine ⟨_, true, ⟨?_, _, hblanks, .inr ?_⟩, .inr ⟨by rw [hdown], rfl⟩⟩
    · rw [hrest, plainRun]
      rfl
    · rw [place_column, linesDown_column (by simp)]
      exact Int.lt_add_one_of_le hm
  | single => exact ⟨_, false, ⟨rfl, rfl, by simp [hrest]⟩, .inl rfl⟩
  | double => exact ⟨_, false, ⟨rfl, rfl⟩, .inl rfl⟩

/-- What the next token finds behind a token that might have been a key: the key is forgotten with
its line. -/
theorem prepared_forgotten {us : List Token} (h : Follows e q m) (hq : q.fresh = false)
    (hpq : p ≤ q) (hi : s.indent < p.column) (hkeys : s.keys = e.keysAt s.indent p us)
    (hflow : s.flow = 0)
    (hs : s.cursor = e.place q ∨ s.cursor = e.place (q.indent m) ∧ s.allowKey = true) :
    s.prepared = .ok ((e.lexer s.indent s.outer (q.indent m) s.tokens).unwind m) := by
  refine prepared_follows h (hs.imp_left fun hcursor => ⟨hcursor, fun hfresh => ?_⟩) hflow ?_
  · exact absurd (hq.symm.trans hfresh) Bool.false_ne_true
  · intro k hk
    have hline : (e.place p).line < (e.place (q.indent m)).line :=
      Nat.lt_of_le_of_lt (hpq.sublist.countP_le) (line_lt_indent hq e m)
    rw [hkeys, keysAt] at hk
    split at hk
    · rw [List.mem_singleton.1 hk]
      exact ⟨by simpa using Int.ne_of_lt hi, hline⟩
    · cases hk

/-- **A text as a value is one token.** -/
theorem ends_styled (hstyle : style.Suits t) (hread : style.read l t = t)
    (hindent : i + 1 ≤ l.indent) (hl : 0 < l.indent) (hi : i < p.lead.column)
    (hdeep : l.isDeep = true → l.indent ≤ p.column + 1)
    (hq : Follows e (p.styled style l t) m) (hm : (m : Int) ≤ i) {rs : List Token}
    (h : (e.lexer i is (p.styled style l t) (textToken style t :: ts)).Ends rs) :
    (e.lexer i is p ts).Ends rs := by
  have hfresh := styled_fresh style l t p
  have hle : p.styled style l t ≤ e := (le_indent ..).trans hq.le
  obtain ⟨c, broken, hend, hc⟩ := endsScalar_follows hq hfresh hm style
  obtain ⟨hstart, -, ⟨ch, hfirst⟩, hstep⟩ :=
    step_styled is ts hstyle hread hindent hl (Int.le_of_lt hi) hdeep hle hend
  have hlead : p.lead ≤ p.styled style l t := (le_put ..).trans hfirst
  have hplace : (e.place (p.styled style l t)).left < (e.place p.lead).left := left_lt hfirst hle
  refine .more (prepared_lead (hlead.trans hle) hstart (Int.le_of_lt hi)) hstep (by
    cases style <;> exact nofun) ?_
    (h.congr (prepared_forgotten hq hfresh hlead hi rfl rfl hc) (prepared_lexer hq))
  rcases hc with rfl | ⟨rfl, -⟩
  · exact hplace
  · exact Nat.lt_of_le_of_lt (rest_length_le (le_indent ..)) hplace

end Page
end Yaml
end WorkflowKit
