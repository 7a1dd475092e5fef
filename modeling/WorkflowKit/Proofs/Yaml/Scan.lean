/-
# Cutting a page into tokens

Between two tokens the reader moves past blanks and line ends, forgets the keys that cannot end any
more, and ends blocks.  Two states that agree behind this are the same for what follows, so that a
run is described by the states that it comes to there (`Ends`), not by those that a token leaves.

`Page.lexer e i is p ts` is such a state: behind what the page `p` holds, inside of the blocks at
the columns `i` and `is`, with the tokens `ts`, the last one first.
-/

import WorkflowKit.Proofs.Yaml.Bounded
import WorkflowKit.Proofs.Yaml.Plain
import WorkflowKit.Yaml.Token.List

namespace WorkflowKit
namespace Yaml

/-! ### The gap before a token -/

namespace Cursor

/-- Moving forward leaves no more to read. -/
theorem left_skip_le (n : Nat) (c : Cursor) : (c.skip n).left ≤ c.left := by
  rw [left_eq, left_eq, rest_skip, List.length_drop]
  exact Nat.sub_le ..

/-- Moving past characters of a kind leaves no more to read. -/
theorem left_dropWhile_le (f : Char → Bool) (c : Cursor) : (c.dropWhile f).left ≤ c.left :=
  left_skip_le ..

/-- Moving past a comment leaves no more to read. -/
theorem left_skipComment_le (c : Cursor) : c.skipComment.left ≤ c.left := by
  rw [skipComment]
  split
  · exact left_dropWhile_le ..
  · exact Nat.le_refl _

/-- Moving past a line end leaves no more to read. -/
theorem left_lineBreak_le (c : Cursor) : c.lineBreak.2.left ≤ c.left := by
  rw [lineBreak]
  split
  · exact left_skip_le 2 c
  · split
    · exact left_skip_le 1 c
    · split
      · exact left_skip_le 1 c
      · exact Nat.le_refl _
  · exact Nat.le_refl _

end Cursor

namespace Lexer

variable {s t u : Lexer} {ts : List Token}

/-- Moving past all that stands between two tokens leaves no more to read. -/
theorem left_skipGap_le (fuel : Nat) (s : Lexer) :
    (s.skipGap fuel).cursor.left ≤ s.cursor.left := by
  induction fuel generalizing s with
  | zero => exact Nat.le_refl _
  | succ fuel ih =>
    have hgap : s.cursor.skipBlanks.skipComment.left ≤ s.cursor.left :=
      Nat.le_trans (Cursor.left_skipComment_le _) (Cursor.left_dropWhile_le ..)
    simp only [skipGap]
    split
    · exact Nat.le_trans (ih _) (Nat.le_trans (Cursor.left_lineBreak_le _) hgap)
    · exact hgap

/-- Forgetting keys does not move the reader. -/
theorem cursor_dropStaleKeys (h : s.dropStaleKeys = .ok t) : t.cursor = s.cursor := by
  rw [dropStaleKeys] at h
  split at h
  · cases h
  · rw [← Except.ok.inj h]

/-- Ending blocks does not move the reader. -/
theorem cursor_foldl_push (is : List Int) (s : Lexer) :
    (is.foldl (fun s _ => s.push .blockEnd) s).cursor = s.cursor := by
  induction is generalizing s with
  | nil => rfl
  | cons i is ih => exact ih (s.push .blockEnd)

/-- Ending the blocks to the right of a column does not move the reader. -/
theorem cursor_unwind (column : Int) (s : Lexer) : (s.unwind column).cursor = s.cursor := by
  simp only [unwind]
  split
  · rfl
  · split
    · exact cursor_foldl_push ..
    · rfl

/-- The state before the next token. -/
def prepared (s : Lexer) : Except Fault Lexer := do
  let s ← (s.skipGap (s.cursor.left + 1)).dropStaleKeys
  pure (s.unwind s.cursor.column)

/-- One token is read from the state before it. -/
theorem advance_of_prepared (h : s.prepared = .ok u) : s.advance = u.step := by
  have hadvance : s.advance = s.prepared >>= step := by
    rw [advance, prepared]
    cases (s.skipGap (s.cursor.left + 1)).dropStaleKeys <;> rfl
  rw [hadvance, h]
  rfl

/-- Before the next token nothing is read twice. -/
theorem left_of_prepared (h : s.prepared = .ok u) : u.cursor.left ≤ s.cursor.left := by
  obtain ⟨t, ht, h⟩ := bind_eq_ok.1 h
  rw [← Except.ok.inj h, cursor_unwind, cursor_dropStaleKeys ht]
  exact left_skipGap_le ..

/-! ### Runs -/

/-- Whether a run comes to the end of the text, with these tokens. -/
inductive Ends : Lexer → List Token → Prop
  /-- The next token ends the text. -/
  | last {s t u : Lexer} (prepared : s.prepared = .ok u) (step : u.step = .ok t)
    (ended : t.tokens.head? = some .streamEnd) : Ends s t.tokens.reverse
  /-- The next token is another one. -/
  | more {s t u : Lexer} {ts : List Token} (prepared : s.prepared = .ok u)
    (step : u.step = .ok t) (going : t.tokens.head? ≠ some .streamEnd)
    (less : t.cursor.left < u.cursor.left) (rest : Ends t ts) : Ends s ts

/-- **A run goes where it ends.** -/
theorem Ends.run_eq (h : Ends s ts) (fuel : Nat) (hfuel : s.cursor.left < fuel) :
    s.run fuel = (ts, none) := by
  obtain ⟨fuel, rfl⟩ := Nat.exists_eq_add_one_of_ne_zero (Nat.ne_of_gt (Nat.zero_lt_of_lt hfuel))
  induction h generalizing fuel with
  | last hprepared hstep ended =>
    rw [run_succ, advance_of_prepared hprepared, hstep]
    exact if_pos ended
  | @more s t u ts hprepared hstep going less rest ih =>
    have hleft := left_of_prepared hprepared
    obtain ⟨n, rfl⟩ : ∃ n, fuel = n + 1 := Nat.exists_eq_add_one_of_ne_zero (by omega)
    have hrun : s.run (n + 1 + 1) = t.run (n + 1) := by
      rw [run_succ, advance_of_prepared hprepared, hstep]
      exact if_neg going
    rw [hrun]
    exact ih n (by omega)

/-- States that agree before the next token agree for good. -/
theorem Ends.congr (h : Ends t ts) (hs : s.prepared = .ok u) (ht : t.prepared = .ok u) :
    Ends s ts := by
  cases h with
  | last prepared step ended =>
    obtain rfl := Except.ok.inj (ht.symm.trans prepared)
    exact .last hs step ended
  | more prepared step going less rest =>
    obtain rfl := Except.ok.inj (ht.symm.trans prepared)
    exact .more hs step going less rest

/-! ### Keys and blocks between two tokens -/

/-- Keys that cannot end any more are forgotten, if none of them is required. -/
theorem dropStaleKeys_of_stale
    (h : ∀ k ∈ s.keys, k.2.required = false ∧ isStale s.cursor k.2 = true) :
    s.dropStaleKeys = .ok { s with keys := [] } := by
  have hany : (s.keys.any fun k => isStale s.cursor k.2 && k.2.required) = false :=
    List.any_eq_false.2 fun k hk => by simp [(h k hk).1]
  have hfilter : (s.keys.filter fun k => !isStale s.cursor k.2) = [] :=
    List.filter_eq_nil_iff.2 fun k hk => by simp [(h k hk).2]
  simp only [dropStaleKeys, hany, hfilter]
  rfl

/-- Keys that can still end are kept. -/
theorem dropStaleKeys_of_fresh (h : ∀ k ∈ s.keys, isStale s.cursor k.2 = false) :
    s.dropStaleKeys = .ok s := by
  have hany : (s.keys.any fun k => isStale s.cursor k.2 && k.2.required) = false :=
    List.any_eq_false.2 fun k hk => by simp [h k hk]
  have hfilter : (s.keys.filter fun k => !isStale s.cursor k.2) = s.keys :=
    List.filter_eq_self.2 fun k hk => by simp [h k hk]
  simp only [dropStaleKeys, hany, hfilter]
  rfl

/-- No block ends to the right of its column. -/
theorem unwind_eq_self {column : Int} (h : s.indent ≤ column) : s.unwind column = s := by
  have hnil : (s.indent :: s.outer).takeWhile (fun i => decide (column < i)) = [] :=
    List.takeWhile_cons_of_neg (by simpa using h)
  simp only [unwind, hnil]
  exact ite_self s

end Lexer

namespace Page

variable {p q e : Page} {i k : Int} {is : List Int} {ts : List Token} {m n : Nat} {s : Lexer}

/-- A page goes down to a column by a new line, or, if its line is fresh and short enough, by blanks
on the same line. -/
theorem indent_cases (n : Nat) (p : Page) :
    p.indent n = p.linesDown ['\n'] n ∨
      (p.fresh = true ∧ p.column ≤ n ∧ (p.column = n → p.blank = true)) ∧
        p.indent n = { p.put (List.replicate (n - p.column) ' ') with blank := true } := by
  by_cases hline : (!p.fresh || n < p.column || (p.column == n && !p.blank)) = true
  · refine .inl ?_
    rw [indent, if_pos hline]
    rcases Nat.eq_zero_or_pos n with rfl | hn
    · rfl
    · exact if_pos hn
  · have hplace : p.fresh = true ∧ p.column ≤ n ∧ (p.column = n → p.blank = true) := by
      simpa only [Bool.or_eq_true, Bool.and_eq_true, Bool.not_eq_true', decide_eq_true_eq,
        beq_iff_eq, not_or, not_and, Bool.not_eq_false, Nat.not_lt, and_assoc] using hline
    refine .inr ⟨hplace, ?_⟩
    obtain ⟨-, hcolumn, hblank⟩ := hplace
    rw [indent, if_neg hline]
    rcases Nat.eq_or_lt_of_le hcolumn with heq | hlt
    · rw [if_neg (Nat.not_lt.2 (Nat.le_of_eq heq.symm)), ← heq, Nat.sub_self]
      have hblank := hblank heq
      obtain ⟨written, column, blank, fresh⟩ := p
      subst hblank
      rfl
    · exact if_pos hlt

/-- The column behind an indentation. -/
theorem indent_column (n : Nat) (p : Page) : (p.indent n).column = n := by
  rcases indent_cases n p with h | ⟨⟨-, hcolumn, -⟩, h⟩
  · rw [h, linesDown_column (by simp)]
  · rw [h]
    show p.column + (List.replicate (n - p.column) ' ').length = n
    rw [List.length_replicate]
    omega

/-- Behind an indentation no blank is needed. -/
theorem indent_blank (n : Nat) (p : Page) : (p.indent n).blank = true := by
  rcases indent_cases n p with h | ⟨-, h⟩ <;> rw [h]
  rfl

/-- Behind an indentation the line is fresh. -/
theorem indent_fresh (n : Nat) (p : Page) : (p.indent n).fresh = true := by
  rcases indent_cases n p with h | ⟨⟨hfresh, -⟩, h⟩ <;> rw [h]
  · rfl
  · exact hfresh

/-- A page whose line is not fresh goes on with the end of the line. -/
theorem line_lt_indent (hq : q.fresh = false) (e : Page) (m : Nat) :
    (e.place q).line < (e.place (q.indent m)).line := by
  rw [indent_eq_linesDown (.inl hq)]
  show q.written.countP isBreak <
    ((q.endLine '\n').put (List.replicate m ' ')).written.countP isBreak
  have hbreak : isBreak '\n' = true := by decide
  simp only [put, endLine, List.countP_append, List.countP_cons_of_pos hbreak]
  omega

/-- The reader behind what a page holds, in the blocks at the columns `i` and `is`. -/
def lexer (e : Page) (i : Int) (is : List Int) (p : Page) (ts : List Token) : Lexer :=
  ⟨e.place p, i, is, 0, p.fresh, [], ts, ts.length, rfl⟩

/-- Whether a text begins with a token, if it is not empty. -/
def StartsToken (cs : List Char) : Prop := ∀ ch ∈ cs.head?, ch ≠ ' ' ∧ ch ≠ '#' ∧ isBreak ch = false

/-- Whether the text goes on behind a page at a column of another line, or on the same line if
that is fresh. -/
structure Follows (e q : Page) (m : Nat) : Prop where
  /-- The page goes on there. -/
  le : q.indent m ≤ e
  /-- A token stands there. -/
  start : StartsToken (e.rest (q.indent m))
  /-- It is no separator of documents. -/
  apart : (e.place (q.indent m)).atSeparator = false

/-- Blanks on a line are passed over. -/
theorem skipGap_put (hs : s.cursor = e.place p) (h : p.put (List.replicate n ' ') ≤ e)
    (hnext : StartsToken (e.rest (p.put (List.replicate n ' ')))) (fuel : Nat) :
    s.skipGap (fuel + 1) = { s with cursor := e.place (p.put (List.replicate n ' ')) } := by
  have htake : (e.place p).takeWhile (· == ' ') =
      (List.replicate n ' ', e.place (p.put (List.replicate n ' '))) :=
    place_takeWhile h isInline_blank (by simp) fun ch hch => by simpa using (hnext ch hch).1
  have hcomment : ((e.place (p.put (List.replicate n ' '))).peek == '#') = false :=
    Cursor.of_peek (f := (· == '#')) (fun ch hch => by simpa using (hnext ch hch).2.1) rfl
  have hbreak : isBreak (e.place (p.put (List.replicate n ' '))).peek = false :=
    Cursor.of_peek (fun ch hch => (hnext ch hch).2.2) rfl
  have hskip : s.cursor.skipBlanks.skipComment = e.place (p.put (List.replicate n ' ')) := by
    rw [Cursor.skipBlanks, Cursor.dropWhile, hs, htake, Cursor.skipComment, hcomment]
    exact if_neg (by simp)
  simp only [Lexer.skipGap, hskip, hbreak]
  exact if_neg (by simp)

/-- A line end and the blanks behind it are passed over; outside of brackets a key may begin there.
-/
theorem skipGap_linesDown (hs : s.cursor = e.place p) (hflow : s.flow = 0)
    (h : p.linesDown ['\n'] n ≤ e) (hnext : StartsToken (e.rest (p.linesDown ['\n'] n)))
    (fuel : Nat) :
    s.skipGap (fuel + 2) =
      { s with cursor := e.place (p.linesDown ['\n'] n), allowKey := true } := by
  have hend : p.endLine '\n' ≤ e := (le_put ..).trans h
  have hrest : (e.place p).rest = '\n' :: _ := rest_endLine hend
  have htake : (e.place p).takeWhile (· == ' ') = ([], e.place p) :=
    Cursor.takeWhile_of_not (Cursor.mem_head?_of_rest hrest rfl)
  have hline := Cursor.lineBreak_of_rest hrest rfl
  rw [place_next_endLine hend rfl] at hline
  have hskip : s.cursor.skipBlanks.skipComment = e.place p := by
    rw [Cursor.skipBlanks, Cursor.dropWhile, hs, htake, Cursor.skipComment,
      Cursor.peek_of_rest hrest]
    rfl
  have hbreak : isBreak (e.place p).peek = true := by
    rw [Cursor.peek_of_rest hrest]
    rfl
  rw [Lexer.skipGap]
  simp only [hskip, hbreak, if_true, hline]
  refine (skipGap_put rfl h hnext fuel).trans ?_
  simp [linesDown, hflow]

/-- The gap up to an indentation. -/
theorem skipGap_indent (hs : s.cursor = e.place p) (hflow : s.flow = 0)
    (hallow : p.fresh = true → s.allowKey = true) (h : p.indent n ≤ e)
    (hnext : StartsToken (e.rest (p.indent n))) :
    s.skipGap (s.cursor.left + 1) =
      { s with cursor := e.place (p.indent n), allowKey := true } := by
  rcases indent_cases n p with hline | ⟨⟨hfresh, -⟩, hput⟩
  · rw [hline] at h hnext ⊢
    obtain ⟨k, hk⟩ : ∃ k, s.cursor.left = k + 1 := by
      rw [hs, place_left, rest_linesDown h]
      exact ⟨_, rfl⟩
    rw [hk]
    exact skipGap_linesDown hs hflow h hnext _
  · rw [hput] at h hnext ⊢
    rw [skipGap_put (n := n - p.column) hs h hnext, ← hallow hfresh]
    rfl

/-- A state outside of brackets that stands behind a page, with no key noted, is the reader behind
that page. -/
theorem lexer_eq {b : Bool} (hb : p.fresh = b) (hs : s.flow = 0) :
    { s with cursor := e.place p, allowKey := b, keys := [] } =
      e.lexer s.indent s.outer p s.tokens := by
  obtain ⟨cursor, indent, outer, flow, allow, keys, tokens, count, hcount⟩ := s
  obtain rfl : flow = 0 := hs
  subst hcount hb
  rfl

/-- **What the next token finds** depends on the page and the blocks alone: the keys of lines before
count no longer, and it does not matter whether the reader has passed the gap already. -/
theorem prepared_follows (hq : Follows e q m)
    (hs : s.cursor = e.place q ∧ (q.fresh = true → s.allowKey = true) ∨
      s.cursor = e.place (q.indent m) ∧ s.allowKey = true)
    (hflow : s.flow = 0)
    (hkeys : ∀ k ∈ s.keys, k.2.required = false ∧ k.2.line < (e.place (q.indent m)).line) :
    s.prepared = .ok ((e.lexer s.indent s.outer (q.indent m) s.tokens).unwind m) := by
  have hgap : s.skipGap (s.cursor.left + 1) =
      { s with cursor := e.place (q.indent m), allowKey := true } := by
    rcases hs with ⟨hcursor, hallow⟩ | ⟨hcursor, hallow⟩
    · exact skipGap_indent hcursor hflow hallow hq.le hq.start
    · rw [skipGap_put (n := 0) hcursor hq.le hq.start, ← hallow]
      rfl
  have hstale : ∀ k ∈ s.keys, k.2.required = false ∧
      Lexer.isStale (e.place (q.indent m)) k.2 = true := by
    intro k hk
    obtain ⟨hrequired, hline⟩ := hkeys k hk
    refine ⟨hrequired, ?_⟩
    have hne : k.2.line ≠ (e.place (q.indent m)).line := Nat.ne_of_lt hline
    simp [Lexer.isStale, hne]
  have hdrop := Lexer.dropStaleKeys_of_stale
    (s := { s with cursor := e.place (q.indent m), allowKey := true }) hstale
  rw [lexer_eq (indent_fresh ..) hflow] at hdrop
  rw [Lexer.prepared, hgap, hdrop]
  show Except.ok (Lexer.unwind (((q.indent m).column : Nat) : Int) _) = _
  rw [indent_column]

/-- The reader behind a page goes on at the column where the text does, once the blocks to the right
of it have ended. -/
theorem prepared_lexer (hq : Follows e q m) :
    (e.lexer i is q ts).prepared = .ok ((e.lexer i is (q.indent m) ts).unwind m) :=
  prepared_follows hq (.inl ⟨rfl, id⟩) rfl (fun _ hk => nomatch hk)

/-- The columns of blocks fall into those that end and those that stay, if one of them stays. -/
theorem exists_split {f : Int → Bool} {j : Int} (hj : f j = false) :
    ∀ {is : List Int}, j ∈ is → ∃ k js, is = is.takeWhile f ++ k :: js
  | i :: is, h => by
    cases hi : f i with
    | false => exact ⟨i, is, by rw [List.takeWhile_cons_of_neg (by simp [hi]), List.nil_append]⟩
    | true =>
      have hne : j ≠ i := by
        rintro rfl
        rw [hi] at hj
        cases hj
      obtain ⟨k, js, hsplit⟩ := exists_split hj ((List.mem_cons.1 h).resolve_left hne)
      refine ⟨k, js, ?_⟩
      rw [List.takeWhile_cons_of_pos hi, List.cons_append, ← hsplit]

/-- A block ends before a token to the left of its column. -/
theorem unwind_close (hm : (m : Int) < k) (hbase : -1 ∈ i :: is) :
    (e.lexer k (i :: is) q ts).unwind m = (e.lexer i is q (.blockEnd :: ts)).unwind m := by
  obtain ⟨j, js, hsplit⟩ :=
    exists_split (f := fun i => decide ((m : Int) < i)) (by simp) hbase
  have htake : (k :: i :: is).takeWhile (fun i => decide ((m : Int) < i)) =
      k :: (i :: is).takeWhile (fun i => decide ((m : Int) < i)) :=
    List.takeWhile_cons_of_pos (by simpa using hm)
  generalize hended : (i :: is).takeWhile (fun i => decide ((m : Int) < i)) = ended at hsplit htake
  have hdrop : (i :: is).drop ended.length = j :: js := by rw [hsplit, List.drop_left]
  have hleft : (e.lexer k (i :: is) q ts).unwind m =
      (k :: ended).foldl (fun s _ => s.push .blockEnd) (e.lexer j js q ts) := by
    simp only [Lexer.unwind, lexer, htake, List.length_cons, List.drop_succ_cons, hdrop]
    rfl
  have hright : (e.lexer i is q (.blockEnd :: ts)).unwind m =
      ended.foldl (fun s _ => s.push .blockEnd) (e.lexer j js q (.blockEnd :: ts)) := by
    simp only [Lexer.unwind, lexer, hended, hdrop]
    rfl
  rw [hleft, hright]
  rfl

end Page
end Yaml
end WorkflowKit
