/-
# Texts with bounded numbers

Cutting a YAML text into tokens fails because the text is not YAML, with two exceptions: the number
of a directive may be too long, and an escape may name a number above U+10FFFF.  A text without such
numbers has tokens, or is not YAML (`tokens_yields`).

Every scanning function goes on from a place to a later one, so that what is left of a text is a
suffix of it.  The lemmas say this of one function after the other, from the characters up.
-/

import Mathlib.Algebra.Group.Nat.Defs
import Mathlib.Data.List.Induction
import WorkflowKit.Proofs.Number.Decimal
import WorkflowKit.Proofs.Number.Run
import WorkflowKit.Proofs.Outcome
import WorkflowKit.Proofs.Yaml.Cursor
import WorkflowKit.Yaml.Token.List

namespace WorkflowKit
namespace Yaml

open Number (ShortRuns)

/-- Characters in which no number is too long, and no escape names a number above U+10FFFF. -/
structure Bounded (cs : List Char) : Prop where
  /-- No row of digits is longer than an integer may be. -/
  runs : ShortRuns cs
  /-- Eight digits after a backslash and `U` name a code point. -/
  escapes : ∀ ds, '\\' :: 'U' :: ds <:+: cs → ds.length = 8 → (∀ d ∈ ds, isHexDigit d = true) →
    Number.digitsValue 16 ds < 0x110000

/-- A reading function that goes on from a place in a bounded text to another one, or finds that
the text is not YAML. -/
abbrev Advances {α : Type} (place : α → Cursor) (x : Except Fault α) : Prop :=
  Yields (· = .malformed) (fun a => Bounded (place a).rest) x

/-- What stands at the end of a bounded text is bounded: it holds no rows of digits and no escapes
but those of the text. -/
theorem Bounded.of_suffix {cs ds : List Char} (h : Bounded cs) (hds : ds <:+ cs) : Bounded ds :=
  ⟨h.runs.of_infix hds.isInfix, fun es hes => h.escapes es (hes.trans hds.isInfix)⟩

variable {c : Cursor}

/-! ### Places -/

/-- Going on by one character leaves an end of the text. -/
theorem next_suffix (c : Cursor) : c.next.rest <:+ c.rest := by
  rw [Cursor.rest_next]
  exact List.tail_suffix _

/-- Going on by any number of characters leaves an end of the text. -/
theorem skip_suffix (n : Nat) (c : Cursor) : (c.skip n).rest <:+ c.rest := by
  rw [Cursor.rest_skip]
  exact List.drop_suffix ..

/-- Behind the end of a line stands an end of the text. -/
theorem lineBreak_suffix (c : Cursor) : c.lineBreak.2.rest <:+ c.rest := by
  unfold Cursor.lineBreak
  split
  · exact skip_suffix 2 c
  · split
    · exact next_suffix c
    · split
      · exact next_suffix c
      · exact List.suffix_rfl
  · exact List.suffix_rfl

/-- Behind a comment stands an end of the text. -/
theorem skipComment_suffix (c : Cursor) : c.skipComment.rest <:+ c.rest := by
  unfold Cursor.skipComment
  split
  · exact skip_suffix _ c
  · exact List.suffix_rfl

namespace Bounded

theorem next (h : Bounded c.rest) : Bounded c.next.rest := h.of_suffix (next_suffix c)

theorem skip (h : Bounded c.rest) (n : Nat) : Bounded (c.skip n).rest :=
  h.of_suffix (skip_suffix n c)

theorem takeWhile (h : Bounded c.rest) (p : Char → Bool) : Bounded (c.takeWhile p).2.rest :=
  h.skip _

theorem dropWhile (h : Bounded c.rest) (p : Char → Bool) : Bounded (c.dropWhile p).rest :=
  h.skip _

theorem skipBlanks (h : Bounded c.rest) : Bounded c.skipBlanks.rest := h.skip _

theorem skipComment (h : Bounded c.rest) : Bounded c.skipComment.rest :=
  h.of_suffix (skipComment_suffix c)

theorem lineBreak (h : Bounded c.rest) : Bounded c.lineBreak.2.rest :=
  h.of_suffix (lineBreak_suffix c)

/-- What is behind a directive or the head of a block scalar may only be a comment; the place behind
it is in the same text. -/
theorem restOfLine (h : Bounded c.rest) : Advances id c.restOfLine := by
  unfold Cursor.restOfLine
  dsimp only
  split
  · exact h.skipBlanks.skipComment.lineBreak
  · rfl

end Bounded

/-! ### Marks -/

/-- An anchor or alias is read up to the place behind its name, or has no name. -/
theorem anchorName_yields (h : Bounded c.rest) : Advances Prod.snd (anchorName c) := by
  unfold anchorName
  dsimp only
  split
  · rfl
  · split
    · exact h.next.takeWhile _
    · rfl

/-- The bytes that are written with percent signs are read up to the place behind the last of them.
-/
theorem uriBytes_yields (fuel : Nat) (h : Bounded c.rest) :
    Advances Prod.snd (uriBytes fuel c) := by
  induction fuel generalizing c with
  | zero => exact h
  | succ fuel ih =>
    rw [uriBytes]
    split
    · dsimp only
      split
      · exact (ih (h.skip 3)).bind fun r hr => hr
      · rfl
    · exact h

/-- The characters of an address are read up to the first one that cannot stand in it. -/
theorem uriChars_yields (fuel : Nat) (h : Bounded c.rest) :
    Advances Prod.snd (uriChars fuel c) := by
  induction fuel generalizing c with
  | zero => exact h
  | succ fuel ih =>
    rw [uriChars]
    dsimp only
    split
    · refine (uriBytes_yields _ h).bind fun r hr => ?_
      split
      · rfl
      · exact (ih hr).bind fun r hr => hr
    · split
      · exact (ih h.next).bind fun r hr => hr
      · exact h

/-- An address has at least one character, and is read up to the first one that cannot stand in it.
-/
theorem uri_yields (h : Bounded c.rest) : Advances Prod.snd (uri c) := by
  refine (uriChars_yields _ h).bind fun ⟨cs, d⟩ hr => ?_
  dsimp only
  split
  · rfl
  · exact hr

/-- The handle of a tag is read: one exclamation mark, two, or a name between two. -/
theorem tagHandle_yields (h : Bounded c.rest) : Advances Prod.snd (tagHandle c) := by
  unfold tagHandle
  split
  · rfl
  · split
    · exact h.next
    · dsimp only
      split
      · exact (h.next.takeWhile _).next
      · rfl

/-- A tag is read in any of its three forms: between angle brackets, with a handle, or bare. -/
theorem tagToken_yields (h : Bounded c.rest) : Advances Prod.snd (tagToken c) := by
  have hend {handle : Option String} {suffix : String} {d : Cursor} (hd : Bounded d.rest) :
      Advances Prod.snd (if endsWord d.peek = true then
        (pure (Token.tag handle suffix, d) : Except Fault (Token × Cursor))
      else .error .malformed) := by
    split
    · exact hd
    · rfl
  unfold tagToken
  dsimp only
  split
  · refine (uri_yields (h.skip 2)).bind fun r hr => ?_
    split
    · exact hend hr.next
    · rfl
  · split
    · exact hend h.next
    · split
      · refine (tagHandle_yields h).bind fun r hr => ?_
        exact (uri_yields hr).bind fun r hr => hend hr
      · exact (uri_yields h.next).bind fun r hr => hend hr

/-- The number of a directive is read, since in a bounded text it has no more digits than a number
may have. -/
theorem decimalNumber_yields (h : Bounded c.rest) : Advances Prod.snd (decimalNumber c) := by
  unfold decimalNumber
  dsimp only
  split
  · rfl
  · have hlength : (c.takeWhile Char.isDigit).1.length ≤ Number.digitLimit :=
      h.runs.length_takeWhile_le
    rw [Number.readDigits_eq_ok hlength]
    exact h.takeWhile _

/-- The two numbers of a version are read one after the other. -/
theorem versionDirective_yields (h : Bounded c.rest) :
    Advances Prod.snd (versionDirective c) := by
  refine (decimalNumber_yields h.skipBlanks).bind fun r hr => ?_
  dsimp only
  split
  · refine (decimalNumber_yields hr.next).bind fun r hr => ?_
    split
    · exact hr
    · rfl
  · rfl

/-- The directive of a handle is read with the handle and the prefix that it stands for. -/
theorem handleDirective_yields (h : Bounded c.rest) :
    Advances Prod.snd (handleDirective c) := by
  refine (tagHandle_yields h.skipBlanks).bind fun r hr => ?_
  dsimp only
  split
  · refine (uri_yields hr.skipBlanks).bind fun r hr => ?_
    split
    · exact hr
    · rfl
  · rfl

/-- A directive of any kind is read up to the end of its line; those of unknown kinds are passed
over. -/
theorem directiveToken_yields (h : Bounded c.rest) : Advances Prod.snd (directiveToken c) := by
  have hname := h.next.takeWhile isNameChar
  have hend {d : Directive × Cursor} (hd : Bounded d.2.rest) :
      Advances Prod.snd (do
        let c ← d.2.restOfLine
        pure (Token.directive d.1, c)) :=
    hd.restOfLine.bind fun c hc => hc
  unfold directiveToken
  dsimp only
  split
  · rfl
  · split
    · exact (versionDirective_yields hname).bind fun d hd => hend hd
    · exact (handleDirective_yields hname).bind fun d hd => hend hd
    · rw [pure_bind]
      exact hend (d := (.other, _)) (hname.dropWhile _)

/-! ### Scalars -/

/-- Empty lines inside of quotes are read, unless a line looks like the end of a document. -/
theorem quotedBreaks_yields (fuel : Nat) (h : Bounded c.rest) :
    Advances Prod.snd (quotedBreaks fuel c) := by
  induction fuel generalizing c with
  | zero => exact h
  | succ fuel ih =>
    rw [quotedBreaks]
    split
    · rfl
    · dsimp only
      split
      · exact (ih (h.dropWhile _).lineBreak).bind fun r hr => hr
      · exact h.dropWhile _

/-- A row of hexadecimal digits names a number that has no more digits than the row, which bounds
what the short escapes may name. -/
theorem digitsValue_lt_of_isHexDigit {ds : List Char} (h : ∀ d ∈ ds, isHexDigit d = true) :
    Number.digitsValue 16 ds < 16 ^ ds.length := by
  induction ds using List.reverseRecOn with
  | nil => decide
  | append_singleton ds d ih =>
    have hds := ih fun e he => h e (List.mem_append_left _ he)
    have hd := h d (by simp)
    rw [Number.digitsValue_append, List.foldl_cons, List.foldl_nil, List.length_append,
      List.length_singleton, Nat.pow_succ]
    unfold isHexDigit at hd
    cases hv : Number.digitValue? d with
    | none =>
      rw [hv] at hd
      cases hd
    | some v =>
      rw [hv] at hd
      have hv' : v < 16 := of_decide_eq_true hd
      show 16 * Number.digitsValue 16 ds + v < 16 ^ ds.length * 16
      omega

/-- An escape names a code point. -/
theorem quotedEscape_yields (fuel : Nat) (h : Bounded c.rest) (hc : c.peek = '\\') :
    Advances Prod.snd (quotedEscape fuel c.next) := by
  have hbound {n : Nat} (hn : escapeDigits? c.next.peek = some n)
      (hlength : (c.next.next.rest.take n).length = n)
      (hhex : ∀ d ∈ c.next.next.rest.take n, isHexDigit d = true) :
      Number.digitsValue 16 (c.next.next.rest.take n) < 0x110000 := by
    have hlt := digitsValue_lt_of_isHexDigit hhex
    rw [hlength] at hlt
    unfold escapeDigits? at hn
    split at hn
    · cases hn
      exact Nat.lt_trans hlt (by decide)
    · cases hn
      exact Nat.lt_trans hlt (by decide)
    · next hU =>
      cases hn
      refine h.escapes _ (List.IsPrefix.isInfix ?_) hlength hhex
      rw [Cursor.rest_of_peek hc (by decide), Cursor.rest_of_peek hU (by decide)]
      exact List.cons_prefix_cons.2 ⟨rfl, List.cons_prefix_cons.2 ⟨rfl, List.take_prefix ..⟩⟩
    · cases hn
  unfold quotedEscape
  dsimp only
  split
  · exact h.next.next
  · split
    · next hds =>
      have hlt := hbound (by assumption) hds.1 (List.all_eq_true.1 hds.2)
      rw [numberedPoint, if_neg (by omega), if_neg (by omega)]
      exact h.next.next.skip _
    · rfl
  · split
    · exact (quotedBreaks_yields fuel h.next.lineBreak).bind fun r hr => hr
    · rfl

/-- What stands between two blanks inside of quotes is read character by character, with its
escapes. -/
theorem quotedRun_yields (double : Bool) (fuel : Nat) (h : Bounded c.rest) :
    Advances Prod.snd (quotedRun double fuel c) := by
  induction fuel generalizing c with
  | zero => exact h
  | succ fuel ih =>
    have hrun := h.takeWhile fun ch => !endsQuotedRun ch
    rw [quotedRun]
    dsimp only
    split
    · exact (ih (hrun.skip 2)).bind fun r hr => hr
    · split
      · exact (ih hrun.next).bind fun r hr => hr
      · split
        · next hdouble =>
          rw [Bool.and_eq_true, beq_iff_eq] at hdouble
          refine (quotedEscape_yields fuel hrun hdouble.2).bind fun r hr => ?_
          exact (ih hr).bind fun r hr => hr
        · exact hrun

/-- Blanks inside of quotes are read, be they in a line or between two. -/
theorem quotedBlanks_yields (fuel : Nat) (h : Bounded c.rest) :
    Advances Prod.snd (quotedBlanks fuel c) := by
  have hblanks := h.takeWhile fun ch => ch == ' ' || ch == '\t'
  unfold quotedBlanks
  dsimp only
  split
  · rfl
  · split
    · exact (quotedBreaks_yields fuel hblanks.lineBreak).bind fun r hr => hr
    · exact hblanks

/-- A text between quotes is read up to its closing quote: in turn what holds no blank, and the
blanks behind that. -/
theorem quotedRest_yields (double : Bool) (quote : Char) (fuel : Nat) (h : Bounded c.rest) :
    Advances Prod.snd (quotedRest double quote fuel c) := by
  induction fuel generalizing c with
  | zero => rfl
  | succ fuel ih =>
    rw [quotedRest]
    refine (quotedRun_yields double _ h).bind fun r hr => ?_
    dsimp only
    split
    · exact hr.next
    · refine (quotedBlanks_yields _ hr).bind fun r hr => ?_
      exact (ih hr).bind fun r hr => hr

/-- A text between quotes is read from the one quote to the other. -/
theorem quotedScalar_yields (double : Bool) (h : Bounded c.rest) :
    Advances Prod.snd (quotedScalar double c) :=
  quotedRest_yields double _ _ h.next

/-- Reading a text without quotes never fails; behind its empty lines stands a bounded text. -/
theorem plainBreaks_bounded (fuel : Nat) (h : Bounded c.rest) :
    Bounded (plainBreaks fuel c).2.rest := by
  induction fuel generalizing c with
  | zero => exact h
  | succ fuel ih =>
    rw [plainBreaks]
    dsimp only
    split
    · split
      · exact h.skipBlanks.lineBreak
      · exact ih h.skipBlanks.lineBreak
    · exact h.skipBlanks

/-- Behind the blanks in a text without quotes stands a bounded text. -/
theorem plainBlanks_bounded (h : Bounded c.rest) : Bounded (plainBlanks c).2.1.rest := by
  have hblanks := h.takeWhile (· == ' ')
  unfold plainBlanks
  dsimp only
  split
  · split
    · exact hblanks.lineBreak
    · have hbreaks := plainBreaks_bounded ((c.takeWhile (· == ' ')).2.lineBreak.2.left + 1)
        hblanks.lineBreak
      split
      · next heq => exact (heq ▸ hbreaks :)
      · next heq => exact (heq ▸ hbreaks :)
  · exact hblanks

/-- Behind a text without quotes, however many lines it has, stands a bounded text. -/
theorem plainRest_bounded (ctx : PlainContext) (fuel : Nat) (blanks : List Char) (broken : Bool)
    (h : Bounded c.rest) : Bounded (plainRest ctx fuel blanks broken c).2.1.rest := by
  induction fuel generalizing blanks broken c with
  | zero => exact h
  | succ fuel ih =>
    rw [plainRest]
    generalize (if c.peek == '#' then [] else plainRun ctx.inFlow c.rest) = run
    dsimp only
    split
    · exact h
    · split
      · exact plainBlanks_bounded (h.skip _)
      · exact ih _ _ (plainBlanks_bounded (h.skip _))

/-- Reading a text without quotes ends at a place in the same bounded text. -/
theorem plainScalar_bounded (ctx : PlainContext) (h : Bounded c.rest) :
    Bounded (plainScalar ctx c).2.1.rest :=
  plainRest_bounded ctx _ _ _ h

/-- The indentation that the head of a block scalar gives is one digit, and not zero. -/
theorem increment?_yields (h : Bounded c.rest) : Advances Prod.snd (increment? c) := by
  unfold increment?
  split
  · dsimp only
    split
    · rfl
    · exact h.next
  · exact h

/-- The head of a block scalar is read: how its end is trimmed and how deep it is indented, in
either order. -/
theorem blockHeader_yields (h : Bounded c.rest) :
    Advances (fun r => r.2.2) (blockHeader c) := by
  have hend {chomping : Chomping} {increment : Option Nat} {d : Cursor} (hd : Bounded d.rest) :
      Advances (fun r => r.2.2) (if endsWord d.peek = true then
        (pure (chomping, increment, d) : Except Fault (Chomping × Option Nat × Cursor))
      else .error .malformed) := by
    split
    · exact hd
    · rfl
  unfold blockHeader
  dsimp only
  split
  · exact (increment?_yields h.next).bind fun r hr => hend hr
  · refine (increment?_yields h).bind fun r hr => ?_
    dsimp only
    split
    · exact hend hr.next
    · exact hend hr

/-- Looking for the indentation of a block scalar goes on over its empty lines. -/
theorem blockIndentation_bounded (fuel deepest : Nat) (h : Bounded c.rest) :
    Bounded (blockIndentation fuel deepest c).2.2.rest := by
  induction fuel generalizing deepest c with
  | zero => exact h
  | succ fuel ih =>
    rw [blockIndentation]
    dsimp only
    split
    · exact ih _ h.skipBlanks.lineBreak
    · exact h.skipBlanks

/-- Behind the empty lines of a block scalar stands a bounded text. -/
theorem blockBreaks_bounded (indent fuel : Nat) (h : Bounded c.rest) :
    Bounded (blockBreaks indent fuel c).2.rest := by
  induction fuel generalizing c with
  | zero => exact h
  | succ fuel ih =>
    rw [blockBreaks]
    dsimp only
    split
    · exact ih (h.skip _).lineBreak
    · exact h.skip _

/-- The lines of a block scalar are read up to the first that is indented less. -/
theorem blockLines_bounded (folded : Bool) (indent fuel : Nat) (breaks : List Char)
    (h : Bounded c.rest) : Bounded (blockLines folded indent fuel breaks c).2.2.2.rest := by
  induction fuel generalizing breaks c with
  | zero => exact h
  | succ fuel ih =>
    have hbreaks := fun fuel =>
      blockBreaks_bounded indent fuel (h.takeWhile fun ch => !isBreak ch).lineBreak
    rw [blockLines]
    dsimp only
    split
    · split
      · exact ih _ (hbreaks _)
      · exact hbreaks _
    · exact h

/-- A block scalar is read with its head, its indentation and its lines; only the head may be wrong.
-/
theorem blockScalar_yields (folded : Bool) (parent : Int) (h : Bounded c.rest) :
    Advances Prod.snd (blockScalar folded parent c) := by
  refine (blockHeader_yields h.next).bind fun ⟨chomping, increment, e⟩ he => ?_
  refine he.restOfLine.bind fun d hd => ?_
  have hlines (breaks : List Char) {indent : Nat} {c : Cursor} (hc : Bounded c.rest) :=
    blockLines_bounded folded indent (c.left + 1) breaks hc
  cases increment with
  | none =>
    have hindent := blockIndentation_bounded (d.left + 1) 0 hd
    cases chomping <;> exact hlines _ hindent
  | some n =>
    have hindent := blockBreaks_bounded (max 1 (parent + 1).toNat + n - 1) (d.left + 1) hd
    cases chomping <;> exact hlines _ hindent

/-! ### Tokens -/

namespace Lexer

variable {s : Lexer}

/-- A step of keeping the books: it stays where it is, or finds that the text is not YAML. -/
abbrev Stays (s : Lexer) (x : Except Fault Lexer) : Prop :=
  Yields (· = .malformed) (fun t => t.cursor = s.cursor) x

/-- Giving up a key that has to be one is a fault of the text, and changes no place. -/
theorem dropKey_yields (s : Lexer) : Stays s s.dropKey := by
  unfold dropKey
  split
  · split
    · rfl
    · exact rfl
  · exact rfl

/-- Giving up keys that are too far behind changes no place. -/
theorem dropStaleKeys_yields (s : Lexer) : Stays s s.dropStaleKeys := by
  unfold dropStaleKeys
  dsimp only
  split
  · rfl
  · exact rfl

/-- Noting that a key may begin here changes no place. -/
theorem noteKey_yields (s : Lexer) : Stays s s.noteKey := by
  unfold noteKey
  split
  · exact (dropKey_yields s).bind fun t ht => ht
  · exact rfl

/-- Putting out tokens moves nothing. -/
theorem foldl_push_cursor (ts : List Int) (t : Token) (s : Lexer) :
    (ts.foldl (fun s _ => s.push t) s).cursor = s.cursor := by
  induction ts generalizing s with
  | nil => rfl
  | cons i ts ih => exact ih (s.push t)

/-- Closing collections that are indented deeper moves nothing. -/
theorem unwind_cursor (column : Int) (s : Lexer) : (s.unwind column).cursor = s.cursor := by
  unfold unwind
  split
  · rfl
  · dsimp only
    split
    · exact foldl_push_cursor ..
    · rfl

/-- Opening a collection by its indentation moves nothing. -/
theorem enter_cursor (column : Nat) (t : Token) (n : Nat) (s : Lexer) :
    (s.enter column t n).cursor = s.cursor := by
  unfold enter
  split <;> rfl

/-- Blanks, comments and empty lines between tokens are passed over. -/
theorem skipGap_bounded (fuel : Nat) (h : Bounded s.cursor.rest) :
    Bounded (skipGap fuel s).cursor.rest := by
  induction fuel generalizing s with
  | zero => exact h
  | succ fuel ih =>
    rw [skipGap]
    split
    · exact ih h.skipBlanks.skipComment.lineBreak
    · exact h.skipBlanks.skipComment

/-- A token with which a key may begin is read as its own scanner reads it. -/
theorem keyToken_yields {scan : Cursor → Except Fault (Token × Cursor)}
    (hscan : ∀ c, Bounded c.rest → Advances Prod.snd (scan c)) (h : Bounded s.cursor.rest) :
    Advances cursor (s.keyToken scan) :=
  (noteKey_yields s).bind fun _ ht => (hscan _ (ht ▸ h)).bind fun _ hr => hr

/-- A token of its own, after which a key may no longer end. -/
theorem afterKey_yields {t : Lexer} {f : Lexer → Lexer} {n : Nat} (h : Bounded s.cursor.rest)
    (ht : t.cursor = s.cursor) (hf : ∀ s, (f s).cursor = s.cursor.skip n) :
    Advances cursor (do
      let s ← t.dropKey
      pure (f s)) := by
  refine (dropKey_yields t).bind fun u hu => ?_
  show Bounded (f u).cursor.rest
  rw [hf, hu, ht]
  exact h.skip n

/-- The end of the text closes everything that is open. -/
theorem endStream_yields (h : Bounded s.cursor.rest) : Advances cursor s.endStream :=
  afterKey_yields (n := 0) h (unwind_cursor ..) fun _ => rfl

/-- A mark between documents is three characters long. -/
theorem documentMark_yields (t : Token) (h : Bounded s.cursor.rest) :
    Advances cursor (s.documentMark t) :=
  afterKey_yields h (unwind_cursor ..) fun _ => rfl

/-- A directive closes what is open before it is read. -/
theorem directive_yields (h : Bounded s.cursor.rest) : Advances cursor s.directive := by
  refine (dropKey_yields (s.unwind (-1))).bind fun t ht => ?_
  rw [unwind_cursor] at ht
  exact (directiveToken_yields (ht ▸ h)).bind fun r hr => hr

/-- A bracket or brace that opens is passed over, after a key has been noted. -/
theorem openFlow_yields (t : Token) (h : Bounded s.cursor.rest) :
    Advances cursor (s.openFlow t) :=
  (noteKey_yields s).bind fun _ ht => Bounded.skip (ht ▸ h) 1

/-- A bracket or brace that closes is passed over, after the key before it has been given up. -/
theorem closeFlow_yields (t : Token) (h : Bounded s.cursor.rest) :
    Advances cursor (s.closeFlow t) :=
  afterKey_yields h rfl fun _ => rfl

/-- A comma between items is passed over. -/
theorem flowEntry_yields (h : Bounded s.cursor.rest) : Advances cursor s.flowEntry :=
  afterKey_yields h rfl fun _ => rfl

/-- A text between quotes may be a key. -/
theorem quoted_yields (double : Bool) (h : Bounded s.cursor.rest) :
    Advances cursor (s.quoted double) :=
  keyToken_yields (fun _ hc => (quotedScalar_yields double hc).bind fun _ hr => hr) h

/-- A text without quotes may be a key. -/
theorem plain_yields (h : Bounded s.cursor.rest) : Advances cursor s.plain :=
  (noteKey_yields s).bind fun _ ht => plainScalar_bounded _ (ht ▸ h)

/-- A block scalar cannot be a key, but one may follow it. -/
theorem block_yields (folded : Bool) (h : Bounded s.cursor.rest) :
    Advances cursor (s.block folded) :=
  (dropKey_yields s).bind fun _ ht =>
    (blockScalar_yields folded _ (ht ▸ h)).bind fun _ hr => hr

/-- What follows where a block may begin. -/
theorem afterBlock_yields {t : Token} {f : Lexer → Lexer} (h : Bounded s.cursor.rest)
    (hf : ∀ s, (f s).cursor = s.cursor.skip 1) :
    Advances cursor (do
      let s ←
        if s.flow ≠ 0 then pure s
        else if !s.allowKey then .error .malformed
        else pure (s.enter s.cursor.column t s.count)
      let s ← s.dropKey
      pure (f s)) := by
  dsimp only
  split
  · exact afterKey_yields h rfl hf
  · split
    · rfl
    · exact afterKey_yields h (enter_cursor ..) hf

/-- A hyphen before an item is passed over, and may open a sequence. -/
theorem blockEntry_yields (h : Bounded s.cursor.rest) : Advances cursor s.blockEntry :=
  afterBlock_yields h fun _ => rfl

/-- A question mark before a key is passed over, and may open a mapping. -/
theorem blockKey_yields (h : Bounded s.cursor.rest) : Advances cursor s.blockKey :=
  afterBlock_yields h fun _ => rfl

/-- A colon before a value is passed over.  Where a key has been noted, a token is put in before
that. -/
theorem value_yields (h : Bounded s.cursor.rest) : Advances cursor s.value := by
  unfold value
  split
  · next k _ =>
    have hcursor : (if (s.forgetKey.insertAt k.token [.key]).flow ≠ 0 then
        s.forgetKey.insertAt k.token [.key]
      else (s.forgetKey.insertAt k.token [.key]).enter k.column .blockMapping k.token).cursor =
        s.cursor := by
      split
      · rfl
      · exact enter_cursor ..
    show Bounded (Cursor.skip 1 (Lexer.cursor (if _ then _ else _))).rest
    rw [hcursor]
    exact h.skip 1
  · exact afterBlock_yields h fun _ => rfl

/-- One token is cut off: each kind by the function that its first character calls for. -/
theorem step_yields (h : Bounded s.cursor.rest) : Advances cursor s.step :=
  (endStream_yields h).ite <| (directive_yields h).ite <|
    (documentMark_yields _ h).ite <| (documentMark_yields _ h).ite <|
    (openFlow_yields _ h).ite <| (openFlow_yields _ h).ite <|
    (closeFlow_yields _ h).ite <| (closeFlow_yields _ h).ite <|
    (flowEntry_yields h).ite <| (blockEntry_yields h).ite <|
    (blockKey_yields h).ite <| (value_yields h).ite <|
    (keyToken_yields (fun _ hc => (anchorName_yields hc).bind (by exact fun _ hr => hr)) h).ite <|
    (keyToken_yields (fun _ hc => (anchorName_yields hc).bind (by exact fun _ hr => hr)) h).ite <|
    (keyToken_yields (fun _ => tagToken_yields) h).ite <|
    (block_yields _ h).ite <| (block_yields _ h).ite <|
    (quoted_yields _ h).ite <| (quoted_yields _ h).ite <| (plain_yields h).ite rfl

/-- One round of the scanner goes on to the next token, or to none. -/
theorem advance_yields (h : Bounded s.cursor.rest) : Advances cursor s.advance := by
  unfold advance
  refine Yields.bind (dropStaleKeys_yields (skipGap (s.cursor.left + 1) s)) fun t ht => ?_
  refine step_yields ?_
  rw [unwind_cursor, ht]
  exact skipGap_bounded _ h

theorem run_zero (s : Lexer) : s.run 0 = (s.tokens.reverse, some .malformed) :=
  Eq.refl _

/-- The scanner in rounds: each one goes on from where the last one ended, until one fails or
reaches the end. -/
theorem run_succ (fuel : Nat) (s : Lexer) :
    s.run (fuel + 1) =
      match s.advance with
      | .error f => (s.settled, some f)
      | .ok t => if t.tokens.head? = some .streamEnd then (t.tokens.reverse, none)
        else run fuel t :=
  Eq.refl _

/-- However many rounds there are, the scanner fails only where the text is not YAML. -/
theorem run_yields (fuel : Nat) (h : Bounded s.cursor.rest) :
    ∀ f ∈ (run fuel s).2, f = .malformed := by
  induction fuel generalizing s with
  | zero => simp [run_zero]
  | succ fuel ih =>
    have hadvance := advance_yields h
    rw [run_succ]
    cases ha : s.advance with
    | error f =>
      have hf := hadvance.error_of ha
      simp [hf]
    | ok t =>
      dsimp only
      split
      · simp
      · exact ih (hadvance.ok_of ha)

end Lexer

/-- **A bounded text has tokens, or it is not YAML.** -/
theorem tokens_yields {cs : List Char} (h : Bounded cs) :
    ∀ f ∈ (tokens cs).2, f = .malformed := by
  unfold tokens
  dsimp only
  split
  · exact Lexer.run_yields _ (s := { Lexer.start cs with cursor := (Lexer.start cs).cursor.next })
      (Bounded.next h)
  · exact Lexer.run_yields _ h

end Yaml
end WorkflowKit
