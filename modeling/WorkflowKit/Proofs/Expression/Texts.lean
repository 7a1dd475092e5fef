/-
# The texts that tokens write

Texts between quotes are one text when no other token stands between them: `rows` puts them
together.  `Writes ts ss` says which texts the rows of some tokens stand for, one after the other,
those of the expressions inside formatted texts among them; it looks at no token but the texts
between quotes, and they determine what is written (`Writes.unique`).
-/

import WorkflowKit.Expression.Grammar

namespace WorkflowKit

attribute [simp] Expr.texts Expr.textsOf Expr.textsOfChain

/-- The text constants of several trees are those of the one part and then those of the other. -/
@[simp]
theorem Expr.textsOf_append (es fs : List Expr) :
    textsOf (es ++ fs) = textsOf es ++ textsOf fs := by
  induction es with
  | nil => rfl
  | cons e es ih => simp [ih]

namespace Expression

/-! ### Rows of texts -/

/-- The texts between quotes among tokens, each with whether another token stands before it;
`parted` says so of the first token.  Ends of lines do not count. -/
def quotesOf (parted : Bool) : List Token → List (Bool × Quotation)
  | [] => []
  | .quotation q :: ts => (parted, q) :: quotesOf false ts
  | .lineEnd :: ts => quotesOf parted ts
  | _ :: ts => quotesOf true ts

/-- The rows of texts between quotes that nothing parts. -/
def rows : List (Bool × Quotation) → List (List Quotation)
  | [] => []
  | [(_, q)] => [[q]]
  | (_, q) :: (parted, p) :: es =>
    if parted then [q] :: rows ((parted, p) :: es)
    else (rows ((parted, p) :: es)).modifyHead (q :: ·)

variable {parted : Bool} {q : Quotation} {qs : List Quotation} {es : List (Bool × Quotation)}
  {t : Token} {ts us : List Token}

/-- If another token stands before the tokens, their first text between quotes is parted from what
was before. -/
theorem head?_quotesOf (ts : List Token) : ∀ e ∈ (quotesOf true ts).head?, e.1 = true := by
  induction ts with
  | nil => simp [quotesOf]
  | cons t ts ih => cases t <;> simp_all [quotesOf]

/-- A row, and the rows behind it. -/
theorem rows_append (h : ∀ e ∈ es.head?, e.1 = true) :
    rows ((parted, q) :: (qs.map (Prod.mk false) ++ es)) = (q :: qs) :: rows es := by
  induction qs generalizing parted q with
  | nil =>
    cases es with
    | nil => rfl
    | cons e es =>
      have he : e.1 = true := h e rfl
      rw [List.map_nil, List.nil_append, rows, if_pos he]
  | cons p qs ih => rw [List.map_cons, List.cons_append, rows, if_neg Bool.false_ne_true, ih]; rfl

/-! ### What rows stand for -/

/-- Rows of texts between quotes, or the pieces of a formatted text. -/
inductive Script
  /-- The rows. -/
  | rows (rs : List (List Quotation))
  /-- The pieces. -/
  | pieces (ps : List Piece)

/-- The texts that rows and pieces stand for. -/
inductive Script.Says : Script → List Text → Prop
  /-- There are no rows. -/
  | noRows : Says (.rows []) []
  /-- Bytes are no text. -/
  | bytes {qs rs ss} (hbytes : qs.all Quotation.bytes = true) (hrest : Says (.rows rs) ss) :
    Says (.rows (qs :: rs)) ss
  /-- Texts without expressions in them are one text. -/
  | joined {qs pss rs ss} (hbytes : qs.all Quotation.bytes = false)
    (hpieces : qs.mapM Quotation.pieces? = some pss)
    (hformatted : qs.any Quotation.formatted = false) (hrest : Says (.rows rs) ss) :
    Says (.rows (qs :: rs)) (joinedText pss.flatten :: ss)
  /-- A formatted text stands for what its pieces stand for. -/
  | formatted {qs pss us rs ss} (hbytes : qs.all Quotation.bytes = false)
    (hpieces : qs.mapM Quotation.pieces? = some pss)
    (hformatted : qs.any Quotation.formatted = true)
    (hinner : Says (.pieces (joinTexts pss.flatten)) us) (hrest : Says (.rows rs) ss) :
    Says (.rows (qs :: rs)) (us ++ ss)
  /-- There are no pieces. -/
  | noPieces : Says (.pieces []) []
  /-- A text. -/
  | text {s ps ss} (hrest : Says (.pieces ps) ss) : Says (.pieces (.text s :: ps)) (s :: ss)
  /-- The end of a format. -/
  | formatEnd {ps ss} (hrest : Says (.pieces ps) ss) : Says (.pieces (.formatEnd :: ps)) ss
  /-- An expression stands for the texts that its tokens write. -/
  | expression {cs ts us ps ss} (htokens : tokens? ('(' :: (cs ++ [')'])) = some ts)
    (hinner : Says (.rows (Expression.rows (quotesOf true ts))) us)
    (hrest : Says (.pieces ps) ss) : Says (.pieces (.expression cs :: ps)) (us ++ ss)

/-- Rows and pieces stand for one list of texts only. -/
theorem Script.Says.unique {x : Script} {ss ss' : List Text} (h : x.Says ss) (h' : x.Says ss') :
    ss = ss' := by
  -- The rules exclude each other by what the first token is: a text of bytes, pieces to be joined,
  -- or the beginning of a formatted text.
  induction h generalizing ss' with
  | noRows | noPieces =>
    cases h'
    rfl
  | bytes hbytes _ ih =>
    cases h' with
    | bytes _ hrest => exact ih hrest
    | joined hbytes' | formatted hbytes' => rw [hbytes] at hbytes'; cases hbytes'
  | joined hbytes hpieces hformatted _ ih =>
    cases h' with
    | bytes hbytes' => rw [hbytes] at hbytes'; cases hbytes'
    | joined _ hpieces' _ hrest =>
      obtain rfl := Option.some.inj (hpieces.symm.trans hpieces')
      rw [ih hrest]
    | formatted _ _ hformatted' => rw [hformatted] at hformatted'; cases hformatted'
  | formatted hbytes hpieces hformatted _ _ ihInner ihRest =>
    cases h' with
    | bytes hbytes' => rw [hbytes] at hbytes'; cases hbytes'
    | joined _ _ hformatted' => rw [hformatted] at hformatted'; cases hformatted'
    | formatted _ hpieces' _ hinner hrest =>
      obtain rfl := Option.some.inj (hpieces.symm.trans hpieces')
      rw [ihInner hinner, ihRest hrest]
  | text _ ih =>
    cases h' with
    | text hrest => rw [ih hrest]
  | formatEnd _ ih =>
    cases h' with
    | formatEnd hrest => exact ih hrest
  | expression htokens _ _ ihInner ihRest =>
    cases h' with
    | expression htokens' hinner hrest =>
      obtain rfl := Option.some.inj (htokens.symm.trans htokens')
      rw [ihInner hinner, ihRest hrest]

/-! ### What tokens write -/

/-- Whether no line ends before the last one does. -/
def endsLast : List Token → Bool
  | [] => true
  | .lineEnd :: ts => ts.all (· = .lineEnd)
  | _ :: ts => endsLast ts

/-- The texts that tokens write. -/
structure Writes (ts : List Token) (ss : List Text) : Prop where
  /-- Their rows stand for the texts. -/
  said : (Script.rows (rows (quotesOf true ts))).Says ss
  /-- They are tokens of one line. -/
  ends : endsLast ts = true

/-- Whether a token is neither a text between quotes nor the end of a line. -/
def Token.isSilent : Token → Bool
  | .quotation _ | .lineEnd => false
  | _ => true

/-- A token that is no text between quotes parts those before it from those behind. -/
theorem quotesOf_silent (ht : t.isSilent = true) :
    quotesOf parted (t :: ts) = quotesOf true ts := by
  cases t with
  | quotation q => cases ht
  | lineEnd => cases ht
  | _ => rfl

/-- Behind the last line there are no texts between quotes. -/
theorem quotesOf_lineEnds (h : ts.all (· = .lineEnd) = true) : quotesOf parted ts = [] := by
  induction ts with
  | nil => rfl
  | cons t ts ih =>
    simp only [List.all_cons, Bool.and_eq_true, decide_eq_true_eq] at h
    rw [h.1, quotesOf, ih h.2]

/-- The tokens up to the first one that is no text between quotes. -/
theorem quotations_append (ts : List Token) :
    ts = (quotations ts).1.map .quotation ++ (quotations ts).2 ∧
      ∀ q us, (quotations ts).2 ≠ .quotation q :: us := by
  fun_induction quotations ts with
  | case1 q ts ih => exact ⟨congrArg _ ih.1, ih.2⟩
  | case2 ts hts => exact ⟨rfl, hts⟩

/-- A row of texts between quotes stays one row, with nothing that parts them. -/
theorem quotesOf_quotations (qs : List Quotation) (ts : List Token) :
    quotesOf false (qs.map .quotation ++ ts) = qs.map (Prod.mk false) ++ quotesOf false ts := by
  induction qs with
  | nil => rfl
  | cons q qs ih => exact congrArg _ ih

namespace Writes

variable {ss ss' : List Text}

/-- **Tokens write one list of texts only.** -/
theorem unique (h : Writes ts ss) (h' : Writes ts ss') : ss = ss' := h.said.unique h'.said

/-- Ends of lines write nothing. -/
theorem lineEnds (h : ts.all (· = .lineEnd) = true) : Writes ts [] where
  said := by
    rw [quotesOf_lineEnds h]
    exact .noRows
  ends := by
    cases ts with
    | nil => rfl
    | cons t ts =>
      simp only [List.all_cons, Bool.and_eq_true, decide_eq_true_eq] at h
      rw [h.1, endsLast, h.2]

/-- A token that is no text between quotes. -/
theorem silent (h : Writes ts ss) (ht : t.isSilent = true) : Writes (t :: ts) ss where
  said := by
    rw [quotesOf_silent ht]
    exact h.said
  ends := by
    cases t with
    | quotation q => cases ht
    | lineEnd => cases ht
    | _ => exact h.ends

/-- Behind a row nothing depends on whether a token stands before. -/
theorem quotesOf_eq (h : Writes ts ss) (hts : ∀ q us, ts ≠ .quotation q :: us) :
    quotesOf false ts = quotesOf true ts := by
  cases ts with
  | nil => rfl
  | cons t ts =>
    cases t with
    | quotation q => exact absurd rfl (hts q ts)
    | lineEnd => exact (quotesOf_lineEnds h.ends).trans (quotesOf_lineEnds h.ends).symm
    | _ => rfl

/-- Texts between quotes before the last line leave it the last one. -/
theorem endsLast_quotations (qs : List Quotation) (h : endsLast ts = true) :
    endsLast (qs.map .quotation ++ ts) = true := by
  induction qs with
  | nil => exact h
  | cons q qs ih => exact ih

/-- A row of texts between quotes. -/
theorem row {q : Quotation} (h : Writes (quotations ts).2 ss)
    (hrow : ∀ {rs}, (Script.rows rs).Says ss →
      (Script.rows ((q :: (quotations ts).1) :: rs)).Says ss') :
    Writes (.quotation q :: ts) ss' := by
  obtain ⟨heq, hend⟩ := quotations_append ts
  refine ⟨?_, ?_⟩
  · have hrows : rows ((true, q) :: ((quotations ts).1.map (Prod.mk false) ++
        quotesOf true (quotations ts).2)) = _ := rows_append (head?_quotesOf (quotations ts).2)
    rw [quotesOf, heq, quotesOf_quotations, h.quotesOf_eq hend, hrows]
    exact hrow h.said
  · rw [heq]
    exact endsLast_quotations (q :: _) h.ends

end Writes

end Expression
end WorkflowKit
