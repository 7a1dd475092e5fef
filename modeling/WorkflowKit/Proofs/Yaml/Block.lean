/-
# The tokens of a value

A value is written in block style, and its page is cut into its tokens (`ends_value`), if its texts
are legible: if each of them is read as it is written (`Value.isLegible`).  Which of them are
depends on the style in which a text is written, and on how far its lines are indented.

The induction is on the value; for a list it is on the items, and for a mapping on the entries.  It
goes from the end of the page to its start: a run that begins behind a value comes to the same end
as one that begins before it.
-/

import WorkflowKit.Proofs.Json.RoundTrip
import WorkflowKit.Proofs.Yaml.Integer
import WorkflowKit.Proofs.Yaml.Key

namespace WorkflowKit

namespace Yaml

open Page

/-- Whether a text is read as it is written in a value.  `n` is the indentation of the block around
it. -/
def isLegibleText (n : Nat) (t : Text) : Bool :=
  match styleOf false t with
  | .plain => true
  | .single => !t.chars.contains '\x85'
  | .double => n + 2 < width || !hasEscapedBlank false t.points.tail

/-- Whether a key of a block at column `n` is read as it is written. -/
def isLegibleKey (n : Nat) (k : Text) : Bool :=
  if isSimpleKey k then (keyText k).length ≤ keyReach else isLegibleText n k

end Yaml

namespace Value

open Yaml (isSimpleKey isLegibleText isLegibleKey)

mutual

/-- Whether the texts of a value are read as they are written.  `n` is the indentation of the block
around the value, and `level` tells whether the items of a list are not indented further. -/
def isLegible (n : Nat) (level : Bool) : Value → Bool
  | text t => isLegibleText n t
  | list vs => isLegibleItems (if level then n else n + 2) vs
  | map es => isLegibleEntries (n + 2) es
  | _ => true

/-- Whether the texts of the items of a list at column `n` are read as they are written. -/
def isLegibleItems (n : Nat) : List Value → Bool
  | [] => true
  | v :: vs => v.isLegible n false && isLegibleItems n vs

/-- Whether the texts of the entries of a mapping at column `n` are read as they are written. -/
def isLegibleEntries (n : Nat) : List (Text × Value) → Bool
  | [] => true
  | (k, v) :: es => isLegibleKey n k && v.isLegible n (isSimpleKey k) && isLegibleEntries n es

end

end Value

namespace Yaml

open Page
open Value (isLegibleItems isLegibleEntries PlainItems PlainEntries)

/-- The style and the text of a scalar. -/
def scalarForm? : Value → Option (Style × Text)
  | .null => some (.plain, "null")
  | .bool b => some (.plain, if b then "true" else "false")
  | .int n => some (.plain, .ofChars (Number.intText n))
  | .float x => some (.plain, .ofChars (floatForm x))
  | .text t => some (styleOf false t, t)
  | _ => none

/-- The tokens of a key. -/
def keyTokens (k : Text) : List Token := [.key, textToken (styleOf (isSimpleKey k) k) k, .value]

mutual

/-- The tokens of a value.  `level` tells whether the items of a list are not indented further than
the block around it. -/
def valueTokens (level : Bool) : Value → List Token
  | .list [] => [.flowSequence, .flowSequenceEnd]
  | .list vs => if level then itemTokens vs else .blockSequence :: itemTokens vs ++ [.blockEnd]
  | .map [] => [.flowMapping, .flowMappingEnd]
  | .map es => .blockMapping :: entryTokens es ++ [.blockEnd]
  | v => (scalarForm? v).toList.map fun f => textToken f.1 f.2

/-- The tokens of the items of a list. -/
def itemTokens : List Value → List Token
  | [] => []
  | v :: vs => .blockEntry :: valueTokens false v ++ itemTokens vs

/-- The tokens of the entries of a mapping. -/
def entryTokens : List (Text × Value) → List Token
  | [] => []
  | (k, v) :: es => keyTokens k ++ valueTokens (isSimpleKey k) v ++ entryTokens es

end

/-- The items of a list are inside a block of their own, unless they stand at the level of the
mapping around it. -/
theorem valueTokens_list (level : Bool) (v : Value) (vs : List Value) :
    valueTokens level (.list (v :: vs)) = if level then itemTokens (v :: vs)
      else .blockSequence :: (itemTokens (v :: vs) ++ [.blockEnd]) := rfl

/-- The entries of a mapping are inside a block of their own. -/
theorem valueTokens_map (level : Bool) (e : Text × Value) (es : List (Text × Value)) :
    valueTokens level (.map (e :: es)) = .blockMapping :: (entryTokens (e :: es) ++ [.blockEnd]) :=
  rfl

/-- Each item stands behind the token of a hyphen. -/
theorem itemTokens_cons (v : Value) (vs : List Value) :
    itemTokens (v :: vs) = .blockEntry :: (valueTokens false v ++ itemTokens vs) := rfl

/-- Each entry is its key and its value, whose list may stand at the level of a key on one line. -/
theorem entryTokens_cons (k : Text) (v : Value) (es : List (Text × Value)) :
    entryTokens ((k, v) :: es) =
      keyTokens k ++ (valueTokens (isSimpleKey k) v ++ entryTokens es) :=
  List.append_assoc ..

namespace Page

variable {t k : Text} {v : Value} {n m : Nat} {i : Int} {is is' : List Int} {ts ts' rs : List Token}
  {e p q : Page}

/-! ### Between the tokens -/

/-- If a blank is written next, what stands before it has ended. -/
theorem endsToken_of_lead (hp : p.blank = false) (h : p.lead ≤ e) :
    ∀ ch ∈ (e.rest p).head?, endsToken ch = true := by
  have hlead : p.lead = p.put [' '] := if_neg (by simp [hp])
  rw [hlead] at h
  rw [rest_put h]
  rintro _ ⟨⟩
  rfl

/-- If a new line is written next, what stands before it has ended. -/
theorem endsToken_of_indent (hp : p.blank = false) (h : p.indent n ≤ e) :
    ∀ ch ∈ (e.rest p).head?, endsToken ch = true := by
  rcases indent_cases n p with hdown | ⟨⟨-, hcolumn, hblank⟩, hput⟩
  · rw [hdown] at h
    rw [rest_linesDown h]
    rintro _ ⟨⟩
    rfl
  · obtain ⟨k, hk⟩ : ∃ k, n - p.column = k + 1 := by
      refine Nat.exists_eq_add_one_of_ne_zero fun hzero => ?_
      exact Bool.false_ne_true (hp.symm.trans (hblank (by omega)))
    rw [hput, hk] at h
    have hrest : e.rest p = List.replicate (k + 1) ' ' ++ _ := rest_put h
    rw [hrest]
    rintro _ ⟨⟩
    rfl

/-- A scalar is written behind the blank that it may need. -/
theorem lead_le_styled (style : Style) (l : Layout) (t : Text) (p : Page) :
    p.lead ≤ p.styled style l t := by
  cases style with
  | plain => exact (le_insideText _).trans (le_plainRuns l (runs t.chars) p.lead.insideText)
  | single => exact (le_put ..).trans (lead_put_le_single ..)
  | double => exact (le_put ..).trans (lead_put_le_double ..)

/-- An empty collection is written behind the blank that it may need. -/
theorem lead_le_brackets (a b : Char) (p : Page) : p.lead ≤ p.brackets a b :=
  (le_put ..).trans (brackets_eq a b p).ge

/-- A value that is no collection is written as a text in a style. -/
theorem writeNode_scalar {at_ : Position} {style : Style} (h : scalarForm? v = some (style, t)) :
    writeNode at_ p v = p.styled style ⟨at_.scalarIndent, true⟩ t := by
  cases v with
  | bool b =>
    obtain ⟨⟩ := h
    cases b <;> rfl
  | int n =>
    obtain ⟨⟩ := h
    rw [styled, Text.chars_ofChars]
    rfl
  | float x =>
    obtain ⟨⟩ := h
    rw [styled, Text.chars_ofChars]
    rfl
  | list vs => cases h
  | map es => cases h
  | _ =>
    obtain ⟨⟩ := h
    rfl

/-- The page behind a key and its colon. -/
def keyed (n : Nat) (k : Text) (p : Page) : Page :=
  if isSimpleKey k then (writeKey n k p).indicator [':'] false false false
  else ((writeText ⟨some n, true⟩ k (p.indicator ['?'] true false true)).indent n).indicator
    [':'] true false true

/-- A key and its colon only add to the page. -/
theorem le_keyed (n : Nat) (k : Text) (p : Page) : p ≤ p.keyed n k := by
  rw [keyed]
  split
  · exact (le_writeKey ..).trans (le_indicator ..)
  · exact (le_indicator ..).trans ((le_writeText ..).trans ((le_indent ..).trans (le_indicator ..)))

/-- The first item is written behind its hyphen, the others behind it. -/
theorem writeItems_cons (n : Nat) (p : Page) (v : Value) (vs : List Value) :
    writeItems n p (v :: vs) = writeItems n
      (writeNode ⟨some n, false⟩ ((p.indent n).indicator ['-'] true false true) v) vs := rfl

/-- The first entry is written behind its key, the others behind it. -/
theorem writeEntries_cons (n : Nat) (p : Page) (k : Text) (v : Value) (es : List (Text × Value)) :
    writeEntries n p ((k, v) :: es) =
      writeEntries n (writeNode ⟨some n, true⟩ ((p.indent n).keyed n k) v) es := rfl

/-- The column of the items: that of the block itself, if the list is the value of a key on one
line, and two more otherwise. -/
theorem writeNode_list (n : Nat) (inMapping : Bool) (p : Page) (v : Value) (vs : List Value) :
    writeNode ⟨some n, inMapping⟩ p (.list (v :: vs)) =
      writeItems (if inMapping && !p.fresh then n else n + 2) p (v :: vs) := rfl

/-- The entries of a mapping stand two columns further. -/
theorem writeNode_map (n : Nat) (inMapping : Bool) (p : Page) (x : Text × Value)
    (es : List (Text × Value)) :
    writeNode ⟨some n, inMapping⟩ p (.map (x :: es)) = writeEntries (n + 2) p (x :: es) := rfl

/-- A value is set off from what stands in front of it. -/
theorem endsToken_of_writeNode {at_ : Position} (hp : p.blank = false)
    (h : writeNode at_ p v ≤ e) : ∀ ch ∈ (e.rest p).head?, endsToken ch = true := by
  have hscalar {style : Style} {t : Text} (ht : scalarForm? v = some (style, t)) :
      ∀ ch ∈ (e.rest p).head?, endsToken ch = true := by
    rw [writeNode_scalar ht] at h
    exact endsToken_of_lead hp ((lead_le_styled style _ t p).trans h)
  cases v with
  | list vs =>
    cases vs with
    | nil => exact endsToken_of_lead hp ((lead_le_brackets ..).trans h)
    | cons v vs =>
      exact endsToken_of_indent hp
        ((le_indicator ..).trans ((le_writeNode ..).trans ((le_writeItems ..).trans h)))
  | map es =>
    cases es with
    | nil => exact endsToken_of_lead hp ((lead_le_brackets ..).trans h)
    | cons x es =>
      exact endsToken_of_indent hp
        ((le_keyed ..).trans ((le_writeNode ..).trans ((le_writeEntries ..).trans h)))
  | _ => exact hscalar rfl

end Page

/-! ### Texts that are read as they are written -/

variable {t : Text} {v : Value} {n : Nat} {style : Style}

/-- Legible texts are those that the style which is chosen for them keeps. -/
theorem read_of_isLegibleText (h : isLegibleText n t = true) :
    (styleOf false t).read ⟨n + 2, true⟩ t = t := by
  have hsuits := suits_styleOf false t
  rw [isLegibleText] at h
  cases hstyle : styleOf false t with
  | plain => rfl
  | single =>
    rw [hstyle] at h hsuits
    obtain ⟨cs, rfl, -⟩ := hsuits
    rw [Text.chars_ofChars] at h
    have hnone : '\x85' ∉ cs := by simpa using h
    rw [Style.read, Text.chars_ofChars, readSingle_eq_self.2 hnone]
  | double =>
    rw [hstyle] at h
    refine congrArg Text.mk (readDouble_eq_self.2 fun hdeep => ?_)
    have hwidth : width ≤ n + 2 := by simpa [Layout.isDeep] using hdeep
    simpa [Nat.not_lt.2 hwidth] using h

/-- A scalar is read as it is written. -/
theorem scalarForm?_reads {level : Bool} (hv : v.Plain) (h : v.isLegible n level = true)
    (hform : scalarForm? v = some (style, t)) :
    style.Suits t ∧ style.read ⟨n + 2, true⟩ t = t := by
  have hword {cs : List Char} (hne : cs ≠ []) (hcs : allowsPlain cs = true) :
      Style.Suits .plain (.ofChars cs) ∧
        Style.read ⟨n + 2, true⟩ (.ofChars cs) .plain = .ofChars cs :=
    ⟨⟨cs, rfl, hne, hcs⟩, rfl⟩
  cases v with
  | null =>
    obtain ⟨⟩ := hform
    exact hword (by decide) (by decide)
  | bool b =>
    obtain ⟨⟩ := hform
    cases b <;> exact hword (by decide) (by decide)
  | int k =>
    obtain ⟨⟩ := hform
    exact hword (intText_ne_nil k) (allowsPlain_intText k)
  | float x => exact hv.elim
  | text t =>
    obtain ⟨⟩ := hform
    exact ⟨suits_styleOf false t, read_of_isLegibleText h⟩
  | list vs => cases hform
  | map es => cases hform

/-! ### Keys -/

namespace Page

variable {k : Text} {m : Nat} {i : Int} {is is' : List Int} {ts ts' rs : List Token}
  {e p q : Page}

/-- Behind a key on one line its colon follows at once. -/
theorem keyed_of_isSimpleKey (hk : isSimpleKey k = true) (n : Nat) (p : Page) :
    p.keyed n k = (writeKey n k p).indicator [':'] false false false := if_pos hk

/-- Any other key stands behind a question mark, and its colon on a line of its own. -/
theorem keyed_of_not_isSimpleKey (hk : isSimpleKey k = false) (n : Nat) (p : Page) :
    p.keyed n k = ((writeText ⟨some n, true⟩ k (p.indicator ['?'] true false true)).indent
      n).indicator [':'] true false true := if_neg (by simp [hk])

/-- Behind a colon a value needs a blank. -/
theorem keyed_blank (n : Nat) (k : Text) (p : Page) : (p.keyed n k).blank = false := by
  rw [keyed]
  split <;> rfl

/-- An indicator at the start of a line takes one column. -/
theorem indicator_indent_column (c : Char) (n : Nat) (p : Page) :
    ((p.indent n).indicator [c] true false true).column = n + 1 := by
  rw [indicator_column, put_column, lead, if_pos (indent_blank n p), indent_column]
  rfl

/-- The colon stands to the right of the block. -/
theorem lt_keyed_column (n : Nat) (k : Text) (p : Page) : n < ((p.indent n).keyed n k).column := by
  cases hk : isSimpleKey k with
  | true =>
    have hcolumn : (writeKey n k (p.indent n)).column = n + (keyText k).length := by
      rw [writeKey_eq hk (indent_blank n p), insideText_column, put_column, indent_column]
    rw [keyed_of_isSimpleKey hk]
    simp only [indicator, Bool.not_false, Bool.or_true, if_true, put_column, hcolumn]
    exact Nat.lt_succ_of_le (Nat.le_add_right ..)
  | false =>
    rw [keyed_of_not_isSimpleKey hk, indicator_indent_column]
    exact Nat.lt_succ_self n

/-- Whether the line goes on behind a key. -/
theorem keyed_fresh (n : Nat) (k : Text) (p : Page) : (p.keyed n k).fresh = !isSimpleKey k := by
  cases hk : isSimpleKey k with
  | true => rw [keyed_of_isSimpleKey hk, indicator_fresh, Bool.and_false, Bool.not_true]
  | false =>
    rw [keyed_of_not_isSimpleKey hk, indicator_fresh, indent_fresh]
    rfl

/-- What a key on one line is written on. -/
theorem writesKey (hk : isSimpleKey k = true) (hl : isLegibleKey n k = true)
    (h : (p.indent n).keyed n k ≤ e)
    (halone : ∀ ch ∈ (e.rest ((p.indent n).keyed n k)).head?, endsToken ch = true) :
    WritesKey e (p.indent n) n k := by
  rw [isLegibleKey, if_pos hk, decide_eq_true_eq] at hl
  rw [keyed_of_isSimpleKey hk] at h halone
  refine ⟨hk, hl, indent_fresh n p, indent_blank n p, (put_le_indicator_bare ..).trans h, ?_⟩
  rwa [← place_rest, ← place_indicator_bare e [':'] false false]

/-- What the indicators around any other key are written on. -/
theorem marksKey (hk : isSimpleKey k = false) (h : (p.indent n).keyed n k ≤ e)
    (halone : ∀ ch ∈ (e.rest ((p.indent n).keyed n k)).head?, endsToken ch = true) :
    Marks e (p.indent n) '?' ∧ Marks e ((writeText ⟨some n, true⟩ k ((p.indent n).indicator ['?']
      true false true)).indent n) ':' := by
  rw [keyed_of_not_isSimpleKey hk] at h halone
  have htext := (le_indent n _).trans ((le_indicator ..).trans h)
  refine ⟨⟨indent_fresh .., indent_blank .., (le_writeText ..).trans htext, ?_⟩,
    ⟨indent_fresh .., indent_blank .., h, halone⟩⟩
  exact endsToken_of_lead rfl ((lead_le_styled ..).trans htext)

/-- A key stands where it is written. -/
theorem follows_keyed (hl : isLegibleKey n k = true) (h : (p.indent n).keyed n k ≤ e)
    (halone : ∀ ch ∈ (e.rest ((p.indent n).keyed n k)).head?, endsToken ch = true) :
    Follows e p n := by
  cases hk : isSimpleKey k with
  | true => exact (writesKey hk hl h halone).follows
  | false => exact (marksKey hk h halone).1.follows (by decide) (by decide)

/-- **A key is three tokens.** -/
theorem ends_keyed (hl : isLegibleKey n k = true) (h : (p.indent n).keyed n k ≤ e)
    (halone : ∀ ch ∈ (e.rest ((p.indent n).keyed n k)).head?, endsToken ch = true)
    (ho : Opens .blockMapping n i is ts is' ts')
    (hr : (e.lexer n is' ((p.indent n).keyed n k) ((keyTokens k).reverse ++ ts')).Ends rs) :
    (e.lexer i is p ts).Ends rs := by
  cases hk : isSimpleKey k with
  | true =>
    rw [keyTokens, keyed_of_isSimpleKey hk, hk] at hr
    exact ends_key (writesKey hk hl h halone) ho hr
  | false =>
    obtain ⟨hmark, hcolon⟩ := marksKey hk h halone
    rw [keyTokens, keyed_of_not_isSimpleKey hk, hk] at hr
    rw [isLegibleKey, hk, if_neg Bool.false_ne_true] at hl
    refine ends_questionMark hmark ho ?_
    have hcolumn := indicator_indent_column '?' n p
    generalize (p.indent n).indicator ['?'] true false true = p₁ at hcolon hr hcolumn ⊢
    have hlead : p₁.column ≤ p₁.lead.column := by
      rw [lead]
      split
      · exact Nat.le_refl _
      · exact Nat.le_succ _
    refine ends_styled (l := ⟨n + 2, true⟩) (m := n) (suits_styleOf false k)
      (read_of_isLegibleText hl) (by dsimp only; omega) (Nat.succ_pos _) (by omega)
      (fun _ => by dsimp only; omega) (hcolon.follows (by decide) (by decide)) (Int.le_refl _) ?_
    exact ends_colon hcolon hr

/-! ### Values -/

/-- A blank moves the column forward only. -/
theorem column_le_lead (p : Page) : p.column ≤ p.lead.column := by
  rw [lead]
  split
  · exact Nat.le_refl _
  · exact Nat.le_succ _

/-- What a hyphen is written on. -/
theorem marksHyphen {vs : List Value} (h : writeItems n p (v :: vs) ≤ e) :
    Marks e (p.indent n) '-' := by
  rw [writeItems_cons] at h
  have hnode := (le_writeItems ..).trans h
  exact ⟨indent_fresh .., indent_blank .., (le_writeNode ..).trans hnode,
    endsToken_of_writeNode rfl hnode⟩

/-- An entry stands where it is written. -/
theorem follows_entries {es : List (Text × Value)} (hl : isLegibleEntries n ((k, v) :: es) = true)
    (h : writeEntries n p ((k, v) :: es) ≤ e) : Follows e p n := by
  rw [isLegibleEntries, Bool.and_eq_true, Bool.and_eq_true] at hl
  rw [writeEntries_cons] at h
  have hnode := (le_writeEntries ..).trans h
  exact follows_keyed hl.1.1 ((le_writeNode ..).trans hnode)
    (endsToken_of_writeNode (keyed_blank n k _) hnode)

/-- The token of a scalar. -/
theorem ends_scalar {at_ : Position} {level : Bool} (hat : at_.indent = some n) (hv : v.Plain)
    (hl : v.isLegible n level = true) (hcolumn : n < p.column)
    (hform : scalarForm? v = some (style, t)) (hq : Follows e (writeNode at_ p v) m) (hm : m ≤ n)
    (hr : (e.lexer n is (writeNode at_ p v) (textToken style t :: ts)).Ends rs) :
    (e.lexer n is p ts).Ends rs := by
  have hindent : at_.scalarIndent = n + 2 := by rw [Position.scalarIndent, hat]
  obtain ⟨hsuits, hread⟩ := scalarForm?_reads hv hl hform
  have hlead := column_le_lead p
  rw [writeNode_scalar hform, hindent] at hq hr
  exact ends_styled hsuits hread (by dsimp only; omega) (Nat.succ_pos _) (by omega)
    (fun _ => by dsimp only; omega) hq (by omega) hr

/-- A block ends where what follows is not indented as far. -/
theorem ends_close {k : Nat} (hq : Follows e q m) (hm : m < k) (hbase : -1 ∈ i :: is)
    (hr : (e.lexer i is q (.blockEnd :: ts)).Ends rs) : (e.lexer k (i :: is) q ts).Ends rs := by
  refine hr.congr (prepared_lexer hq) ?_
  rw [unwind_close (by omega) hbase]
  exact prepared_lexer hq

mutual

/-- **The page of a value is cut into its tokens.** -/
theorem ends_value {n m : Nat} {is : List Int} {ts : List Token} {p : Page} (inMapping : Bool)
    (v : Value) (hv : v.Plain) (hl : v.isLegible n (inMapping && !p.fresh) = true)
    (hcolumn : n < p.column) (hq : Follows e (writeNode ⟨some n, inMapping⟩ p v) m) (hm : m ≤ n)
    (hbase : -1 ∈ (n : Int) :: is)
    (hr : (e.lexer n is (writeNode ⟨some n, inMapping⟩ p v)
      ((valueTokens (inMapping && !p.fresh) v).reverse ++ ts)).Ends rs) :
    (e.lexer n is p ts).Ends rs := by
  have hlead : (n : Int) < p.lead.column :=
    Int.ofNat_lt.2 (Nat.lt_of_lt_of_le hcolumn (column_le_lead p))
  cases v with
  | list vs =>
    cases vs with
    | nil => exact Brackets.list.run hlead hq hr
    | cons v vs =>
      rw [writeNode_list] at hq hr
      rw [valueTokens_list] at hr
      rw [Value.isLegible] at hl
      -- Under a key the list stays on the level of the mapping, so it closes no level of its own.
      cases hlevel : inMapping && !p.fresh with
      | true =>
        rw [hlevel, if_pos rfl] at hl hq hr
        rw [if_pos rfl] at hr
        exact ends_items (v :: vs) (List.cons_ne_nil _ _) hv hl hq hm hbase .same hr
      | false =>
        rw [hlevel, if_neg Bool.false_ne_true] at hl hq hr
        rw [if_neg Bool.false_ne_true] at hr
        refine ends_items (v :: vs) (List.cons_ne_nil _ _) hv hl hq (Nat.le_add_right_of_le hm)
          hbase (.new (by omega)) ?_
        refine ends_close hq (by omega) hbase ?_
        simpa using hr
  | map es =>
    cases es with
    | nil => exact Brackets.map.run hlead hq hr
    | cons x es =>
      rw [writeNode_map] at hq hr
      rw [valueTokens_map] at hr
      refine ends_entries (x :: es) (List.cons_ne_nil _ _) hv.2 hl hq (Nat.le_add_right_of_le hm)
        hbase (.new (by omega)) ?_
      refine ends_close hq (by omega) hbase ?_
      simpa using hr
  | _ => exact ends_scalar rfl hv hl hcolumn rfl hq hm hr

/-- The items of a list end as the run behind them does: each hyphen is read, then its value, then
the rest by induction. -/
theorem ends_items {n m : Nat} {i : Int} {is is' : List Int} {ts ts' : List Token} {p : Page}
    (vs : List Value) (hne : vs ≠ []) (hv : PlainItems vs) (hl : isLegibleItems n vs = true)
    (hq : Follows e (writeItems n p vs) m) (hm : m ≤ n) (hbase : -1 ∈ i :: is)
    (ho : Opens .blockSequence n i is ts is' ts')
    (hr : (e.lexer n is' (writeItems n p vs) ((itemTokens vs).reverse ++ ts')).Ends rs) :
    (e.lexer i is p ts).Ends rs := by
  cases vs with
  | nil => exact absurd rfl hne
  | cons v vs =>
    have hmark := marksHyphen ((le_indent ..).trans hq.le)
    have hcolumn : n < ((p.indent n).indicator ['-'] true false true).column :=
      Nat.lt_of_succ_le (indicator_indent_column '-' n p).ge
    rw [isLegibleItems, Bool.and_eq_true] at hl
    rw [writeItems_cons] at hq hr
    refine ends_hyphen hmark ho ?_
    cases vs with
    | nil =>
      refine ends_value false v hv.1 hl.1 hcolumn hq hm (ho.base hbase) ?_
      simpa [itemTokens, writeItems] using hr
    | cons w ws =>
      have hnext := marksHyphen ((le_indent ..).trans hq.le)
      refine ends_value false v hv.1 hl.1 hcolumn (hnext.follows (by decide) (by decide))
        (Nat.le_refl n) (ho.base hbase) ?_
      refine ends_items (w :: ws) (List.cons_ne_nil _ _) hv.2 hl.2 hq hm (ho.base hbase) .same ?_
      simpa [itemTokens] using hr

/-- The entries of a mapping end as the run behind them does: each key is read, then its value, then
the rest by induction. -/
theorem ends_entries {n m : Nat} {i : Int} {is is' : List Int} {ts ts' : List Token} {p : Page}
    (es : List (Text × Value)) (hne : es ≠ []) (hv : PlainEntries es)
    (hl : isLegibleEntries n es = true) (hq : Follows e (writeEntries n p es) m) (hm : m ≤ n)
    (hbase : -1 ∈ i :: is) (ho : Opens .blockMapping n i is ts is' ts')
    (hr : (e.lexer n is' (writeEntries n p es) ((entryTokens es).reverse ++ ts')).Ends rs) :
    (e.lexer i is p ts).Ends rs := by
  cases es with
  | nil => exact absurd rfl hne
  | cons x es =>
    obtain ⟨k, v⟩ := x
    rw [isLegibleEntries, Bool.and_eq_true, Bool.and_eq_true] at hl
    obtain ⟨⟨hkey, hvalue⟩, hentries⟩ := hl
    rw [writeEntries_cons] at hq hr
    have hcolumn := lt_keyed_column n k p
    have hnode : writeNode ⟨some n, true⟩ ((p.indent n).keyed n k) v ≤ e :=
      (le_writeEntries ..).trans ((le_indent ..).trans hq.le)
    have hlevel : (true && !((p.indent n).keyed n k).fresh) = isSimpleKey k := by
      rw [keyed_fresh, Bool.true_and, Bool.not_not]
    have halone := endsToken_of_writeNode (keyed_blank n k _) hnode
    refine ends_keyed hkey ((le_writeNode ..).trans hnode) halone ho ?_
    rw [← hlevel] at hvalue
    cases es with
    | nil =>
      refine ends_value true v hv.1 hvalue hcolumn hq hm (ho.base hbase) ?_
      rw [hlevel]
      simpa [entryTokens, writeEntries] using hr
    | cons y es =>
      have hnext := follows_entries (k := y.1) (v := y.2) hentries ((le_indent ..).trans hq.le)
      refine ends_value true v hv.1 hvalue hcolumn hnext (Nat.le_refl n) (ho.base hbase) ?_
      refine ends_entries (y :: es) (List.cons_ne_nil _ _) hv.2 hentries hq hm (ho.base hbase)
        .same ?_
      rw [hlevel]
      simpa [entryTokens] using hr

end

/-! ### Whole pages -/

/-- Behind the last line the text ends. -/
theorem follows_indent (q : Page) (n : Nat) : Follows (q.indent n) q n := by
  have hrest : (q.indent n).rest (q.indent n) = [] := rest_self _
  refine ⟨le_refl _, ?_, ?_⟩
  · rw [hrest]
    exact nofun
  · rw [Cursor.atSeparator, place_rest, hrest]
    rfl

/-- The end of the text ends the block of the whole document. -/
theorem ends_last (q : Page) (ts : List Token) :
    ((q.indent 0).lexer 0 [-1] q ts).Ends (ts.reverse ++ [.blockEnd, .streamEnd]) := by
  have hend : ((q.indent 0).place (q.indent 0)).peek = endMark := by
    rw [Cursor.peek, place_rest, rest_self]
    rfl
  have hstep : ((q.indent 0).lexer 0 [-1] (q.indent 0) ts).step =
      .ok ⟨(q.indent 0).place (q.indent 0), -1, [], 0, false, [], .streamEnd :: .blockEnd :: ts, _,
        rfl⟩ := by
    rw [Lexer.step_end hend]
    rfl
  have hprepared : ((q.indent 0).lexer 0 [-1] q ts).prepared =
      .ok ((q.indent 0).lexer 0 [-1] (q.indent 0) ts) :=
    prepared_indent (follows_indent q 0) (Int.le_refl 0)
  simpa using Lexer.Ends.last hprepared hstep rfl

end Page

end Yaml
end WorkflowKit
