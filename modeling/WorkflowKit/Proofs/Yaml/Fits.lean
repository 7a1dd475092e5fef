/-
# Trees whose scalars fit their tags

A tag such as that of integers has forms: a scalar of the tag has a value only if its text is of one
of these.  A tree of nodes is read as a document, or is not YAML, if the scalars of such tags fit
(`toDoc_yields`); no mapping may have such a tag.

Whatever a check comes to is a node of the tree, or one of its anchors, which are nodes of the tree
too.  So a check keeps to nodes that fit, from one level of collections to the next.
-/

import WorkflowKit.Proofs.Decode.Part
import WorkflowKit.Proofs.Outcome
import WorkflowKit.Proofs.Yaml.Structure
import WorkflowKit.Proofs.Yaml.Bounded
import WorkflowKit.Yaml.Reader

namespace WorkflowKit
namespace Yaml

/-- Whether the scalars of a tag must be of certain forms. -/
def Tag.hasForms : Tag → Bool
  | .bool | .int | .float | .timestamp => true
  | _ => false

/-- The text of a scalar is of a form of its tag. -/
def Tag.Fits (tag : Tag) (t : Text) : Prop :=
  tag.hasForms = true → ∃ x, scalarValue tag t = .ok x

/-- The scalars in a node fit their tags. -/
inductive Node.Fits : Node → Prop
  /-- A scalar fits its tag. -/
  | scalar {a : Option String} {place : Nat} {tag : Tag} {t : Text} (fits : tag.Fits t) :
    Fits (.scalar a place tag t)
  /-- So do the items of a sequence. -/
  | sequence {a : Option String} {tag : Tag} {ns : List Node} (items : ∀ n ∈ ns, n.Fits) :
    Fits (.sequence a tag ns)
  /-- So do the keys and values of a mapping, whose tag is none of scalars. -/
  | mapping {a : Option String} {tag : Tag} {es : List (Node × Node)}
    (tagged : tag.hasForms = false) (keys : ∀ e ∈ es, e.1.Fits) (values : ∀ e ∈ es, e.2.Fits) :
    Fits (.mapping a tag es)
  /-- An alias fits where its anchor does. -/
  | reference {name : String} : Fits (.reference name)

namespace Node

mutual

/-- Checks that the scalars in a node fit their tags. -/
def fits : Node → Bool
  | scalar _ _ tag t => !tag.hasForms || (scalarValue tag t).isOk
  | sequence _ _ ns => fitsItems ns
  | mapping _ tag es => !tag.hasForms && fitsEntries es
  | reference _ => true

/-- Checks that the scalars in items fit their tags. -/
def fitsItems : List Node → Bool
  | [] => true
  | n :: ns => n.fits && fitsItems ns

/-- Checks that the scalars in entries fit their tags. -/
def fitsEntries : List (Node × Node) → Bool
  | [] => true
  | (k, v) :: es => k.fits && v.fits && fitsEntries es

end

mutual

/-- The check is right about a node, by induction together with items and entries. -/
theorem Fits.of_fits (n : Node) (h : n.fits = true) : n.Fits := by
  match n with
  | .scalar a place tag t =>
    refine .scalar fun hforms => ?_
    rw [fits, hforms, Bool.not_true, Bool.false_or] at h
    cases hvalue : scalarValue tag t with
    | ok x => exact ⟨x, rfl⟩
    | error f =>
      rw [hvalue] at h
      cases h
  | .sequence a tag ns => exact .sequence (Fits.of_fitsItems ns h)
  | .mapping a tag es =>
    rw [fits, Bool.and_eq_true, Bool.not_eq_true'] at h
    have hentries := Fits.of_fitsEntries es h.2
    exact .mapping h.1 (fun e he => (hentries e he).1) fun e he => (hentries e he).2
  | .reference name => exact .reference

/-- The check is right about items. -/
theorem Fits.of_fitsItems (ns : List Node) (h : fitsItems ns = true) : ∀ n ∈ ns, n.Fits := by
  match ns with
  | [] => exact fun n hn => nomatch hn
  | n :: ns =>
    rw [fitsItems, Bool.and_eq_true] at h
    exact List.forall_mem_cons.2 ⟨Fits.of_fits n h.1, Fits.of_fitsItems ns h.2⟩

/-- The check is right about entries. -/
theorem Fits.of_fitsEntries (es : List (Node × Node)) (h : fitsEntries es = true) :
    ∀ e ∈ es, e.1.Fits ∧ e.2.Fits := by
  match es with
  | [] => exact fun e he => nomatch he
  | (k, v) :: es =>
    rw [fitsEntries, Bool.and_eq_true, Bool.and_eq_true] at h
    exact List.forall_mem_cons.2
      ⟨⟨Fits.of_fits k h.1.1, Fits.of_fits v h.1.2⟩, Fits.of_fitsEntries es h.2⟩

end

end Node

/-- An entry whose key and value fit. -/
def FitsEntry (e : Node × Node) : Prop := e.1.Fits ∧ e.2.Fits

/-! ### Scalars -/

/-- Bytes in base 64 are read, or the text is not YAML: the padding may be wrong. -/
theorem bytes64_yields (place carry pads : Nat) (cs : List Char) :
    Yields (· = .malformed) (fun _ => True) (bytes64 place carry pads cs) := by
  induction cs generalizing place carry pads with
  | nil =>
    unfold bytes64
    exact .ite trivial rfl
  | cons c cs ih =>
    unfold bytes64
    refine .ite (.ite trivial (ih _ _ _)) ?_
    split
    · exact ih _ _ _
    · split
      · exact ih _ _ _
      · exact (ih _ _ _).map fun _ _ => trivial
      · exact (ih _ _ _).map fun _ _ => trivial
      · exact (ih _ _ _).map fun _ _ => trivial

/-- A scalar whose text is of a form of its tag has a value, or the text is not YAML. -/
theorem scalarValue_yields {tag : Tag} {t : Text} (h : tag.Fits t) :
    Yields (· = .malformed) (fun _ => True) (scalarValue tag t) := by
  have hforms (htag : tag.hasForms = true) :
      Yields (· = .malformed) (fun _ => True) (scalarValue tag t) := by
    obtain ⟨x, hx⟩ := h htag
    rw [hx]
    trivial
  cases tag with
  | bool => exact hforms rfl
  | int => exact hforms rfl
  | float => exact hforms rfl
  | timestamp => exact hforms rfl
  | binary =>
    have hbytes : Yields (· = .malformed) (fun _ => True) (bytesValue t) :=
      .ite (bytes64_yields _ _ _ _) rfl
    exact hbytes.map fun _ _ => trivial
  | null => trivial
  | text => trivial
  | value => trivial
  | _ => rfl

/-- The text of a node is found through references, or the text is not YAML. -/
theorem scalarText_yields (env : Anchors) (texts : List Nat) (fuel : Nat) (n : Node) :
    Yields (· = .malformed) (fun _ => True) (scalarText env texts fuel n) := by
  induction fuel generalizing n with
  | zero => rfl
  | succ fuel ih =>
    rw [scalarText]
    split
    · trivial
    · split
      · exact ih _
      · rfl
    · rfl

/-! ### Anchors -/

/-- The anchors of items are those of each of them. -/
theorem mem_anchorsOfItems {e : String × Node} {ns : List Node} :
    e ∈ Node.anchorsOfItems ns ↔ ∃ n ∈ ns, e ∈ n.anchors := by
  induction ns with
  | nil => simp [Node.anchorsOfItems]
  | cons n ns ih => simp [Node.anchorsOfItems, ih]

/-- The anchors of entries are those of their keys and values. -/
theorem mem_anchorsOfEntries {e : String × Node} {es : List (Node × Node)} :
    e ∈ Node.anchorsOfEntries es ↔ ∃ f ∈ es, e ∈ f.1.anchors ∨ e ∈ f.2.anchors := by
  induction es with
  | nil => simp [Node.anchorsOfEntries]
  | cons f es ih => simp [Node.anchorsOfEntries, ih, or_assoc]

/-- The anchors in a tree that fits fit. -/
theorem Node.Fits.anchors {n : Node} (h : n.Fits) : ∀ e ∈ n.anchors, e.2.Fits := by
  induction h with
  | @scalar a place tag t fits =>
    cases a with
    | none => simp [Node.anchors]
    | some a => simpa [Node.anchors] using Node.Fits.scalar fits
  | @sequence a tag ns items ih =>
    have hitems : ∀ e ∈ Node.anchorsOfItems ns, e.2.Fits := fun e he => by
      obtain ⟨n, hn, he⟩ := mem_anchorsOfItems.1 he
      exact ih n hn e he
    cases a with
    | none => exact hitems
    | some a =>
      rw [Node.anchors, List.forall_mem_append]
      exact ⟨hitems, by simpa using Node.Fits.sequence items⟩
  | @mapping a tag es tagged keys values ihKeys ihValues =>
    have hentries : ∀ e ∈ Node.anchorsOfEntries es, e.2.Fits := fun e he => by
      obtain ⟨f, hf, he | he⟩ := mem_anchorsOfEntries.1 he
      · exact ihKeys f hf e he
      · exact ihValues f hf e he
    cases a with
    | none => exact hentries
    | some a =>
      rw [Node.anchors, List.forall_mem_append]
      exact ⟨hentries, by simpa using Node.Fits.mapping tagged keys values⟩
  | reference => simp [Node.anchors]

variable {env : Anchors} {texts : List Nat} {bound : Nat} {p : Pending} {n : Node}

/-- What a node refers to fits if the node and all anchored nodes do. -/
theorem Node.Fits.target (henv : ∀ e ∈ env, e.2.Fits) (h : n.Fits) : (n.target env).Fits := by
  unfold Node.target
  split
  · split
    · next e he => exact henv _ (List.mem_of_find?_eq_some he)
    · exact .scalar fun h => nomatch h
  · exact h

/-! ### Values and entries -/

/-- The text of a scalar is the text that it was written with. -/
theorem scalarText_scalar {a : Option String} {place : Nat} {tag : Tag} {t : Text}
    (hn : n.target env = .scalar a place tag t) :
    Yields (· = .malformed) (· = t) (scalarText env texts bound n) := by
  cases bound with
  | zero => rfl
  | succ bound =>
    rw [scalarText, hn]
    exact rfl

/-- A list has no text. -/
theorem scalarText_sequence {a : Option String} {tag : Tag} {ns : List Node}
    (hn : n.target env = .sequence a tag ns) :
    Yields (· = .malformed) (fun _ => False) (scalarText env texts bound n) := by
  cases bound with
  | zero => rfl
  | succ bound =>
    rw [scalarText, hn]
    rfl

/-- A reference that leads nowhere has no text. -/
theorem scalarText_reference {name : String} (hn : n.target env = .reference name) :
    Yields (· = .malformed) (fun _ => False) (scalarText env texts bound n) := by
  cases bound with
  | zero => rfl
  | succ bound =>
    rw [scalarText, hn]
    rfl

/-- A node that fits has a value of its tag, or the text is not YAML. -/
theorem plainValue_yields (h : (n.target env).Fits) :
    Yields (· = .malformed) (fun _ => True) (plainValue env texts bound n) := by
  have hvalue {tag : Tag} {t : Text} (h : tag.Fits t) :
      Yields (· = .malformed) (fun _ => True) (some <$> scalarValue tag t) :=
    (scalarValue_yields h).map fun _ _ => trivial
  unfold plainValue
  rw [Node.targetTag]
  dsimp only
  refine .ite trivial ?_
  generalize hn : n.target env = m at h
  cases h with
  | scalar fits =>
    refine (scalarText_scalar hn).bind fun s hs => ?_
    rw [hs]
    split
    · next heq => cases heq
    · exact hvalue fits
  | sequence => exact (scalarText_sequence hn).bind fun s hs => hs.elim
  | @mapping _ tag _ tagged =>
    refine (scalarText_yields env texts bound n).bind fun s _ => ?_
    rw [Node.tag]
    split
    · next htag _ => cases tagged
    · exact hvalue fun htag => absurd htag (by simp [tagged])
  | reference => exact (scalarText_reference hn).bind fun s hs => hs.elim

/-- The entries that are merged into a mapping fit as its own do: they are entries of nodes of the
tree. -/
theorem mergedEntries_yields (henv : ∀ e ∈ env, e.2.Fits) (fuel : Nat) (path : List String)
    {es : List (Node × Node)} (h : ∀ e ∈ es, FitsEntry e) :
    Yields (· = .malformed) (fun es => ∀ e ∈ es, FitsEntry e)
      (mergedEntries env fuel path es) := by
  have hfilter (q : Node × Node → Bool) {es : List (Node × Node)} (h : ∀ e ∈ es, FitsEntry e) :
      ∀ e ∈ es.filter q, FitsEntry e := fun e he => h e (List.mem_filter.1 he).1
  induction fuel generalizing path es with
  | zero => rfl
  | succ fuel ih =>
    -- One mapping that is merged: its own entries count, or those that are merged into it in turn.
    have hmerge {p : Prop} [Decidable p] (path : List String) {es : List (Node × Node)}
        (q : Node × Node → Bool) (keys : ∀ e ∈ es, e.1.Fits) (values : ∀ e ∈ es, e.2.Fits) :
        Yields (· = .malformed) (fun es => ∀ e ∈ es, FitsEntry e)
          (if p then .ok (es.filter q) else mergedEntries env fuel path es) :=
      have hes := fun e he => (⟨keys e he, values e he⟩ : FitsEntry e)
      .ite (hfilter q hes) (ih path hes)
    rw [mergedEntries]
    refine Yields.bind (.mapM fun e he => ?_)
      fun (merged : List (List (Node × Node)))
        (hmerged : ∀ es ∈ merged, ∀ e ∈ es, FitsEntry e) => ?_
    -- The value of a merging key: a list of mappings, or one mapping.
    · have hvalue := (h e (List.mem_filter.1 he).1).2.target henv
      split
      · next heq =>
        rw [heq] at hvalue
        cases hvalue with
        | sequence items =>
          refine Yields.map (.mapM fun n hn => ?_)
            fun (ess : List (List (Node × Node))) (hess : ∀ es ∈ ess, ∀ e ∈ es, FitsEntry e)
              e he => ?_
          · have htarget := (items n hn).target henv
            split
            · next heq =>
              rw [heq] at htarget
              cases htarget with
              | mapping _ keys values => exact hmerge _ _ keys values
            · rfl
          · obtain ⟨es, hes, he⟩ := List.mem_flatten.1 he
            exact hess es (List.mem_reverse.1 hes) e he
      · have htarget := hvalue.target henv
        dsimp only
        split
        · next heq =>
          rw [heq] at htarget
          cases htarget with
          | mapping _ keys values => exact hmerge _ _ keys values
        · rfl
    · refine List.forall_mem_append.2 ⟨fun e he => ?_, hfilter _ h⟩
      obtain ⟨es, hes, he⟩ := List.mem_flatten.1 he
      exact hmerged es hes e he

/-- Checking a value leaves only nodes that fit for the next level. -/
theorem checkValue_yields (hn : (n.target env).Fits) (hp : ∀ m ∈ p.next, m.Fits) :
    Yields (· = .malformed) (fun q : Pending => ∀ m ∈ q.next, m.Fits)
      (checkValue env bound p n) := by
  unfold checkValue
  dsimp only
  split
  · exact hp
  · refine (plainValue_yields hn).bind fun x _ => ?_
    split
    · exact hp
    · exact List.forall_mem_cons.2 ⟨hn, hp⟩

/-- Checking a node, whichever collection it is, leaves only nodes that fit for the next level. -/
theorem checkNode_yields (hn : (n.target env).Fits) (hp : ∀ m ∈ p.next, m.Fits) :
    Yields (· = .malformed) (fun q : Pending => ∀ m ∈ q.next, m.Fits)
      (checkNode env bound p n) :=
  .ite rfl (checkValue_yields hn hp)

/-- Checking a key leaves only nodes that fit for the next level. -/
theorem checkKey_yields (hn : (n.target env).Fits) (hp : ∀ m ∈ p.next, m.Fits) :
    Yields (· = .malformed) (fun q : Pending => ∀ m ∈ q.next, m.Fits)
      (checkKey env bound p n) :=
  .ite rfl (checkValue_yields hn hp)

/-- The key and the value of a mapping with one entry fit if the mapping does. -/
theorem onlyPair?_fits {k v : Node} (hn : (n.target env).Fits)
    (h : onlyPair? env n = some (k, v)) : k.Fits ∧ v.Fits := by
  unfold onlyPair? at h
  split at h
  · next heq =>
    rw [heq] at hn
    cases h
    cases hn with
    | mapping _ keys values => exact ⟨keys _ List.mem_cons_self, values _ List.mem_cons_self⟩
  · cases h

/-- Checking a collection leaves only nodes that fit: its items, or the keys and values of its
entries. -/
theorem checkCollection_yields (henv : ∀ e ∈ env, e.2.Fits) (hn : n.Fits)
    (hp : ∀ m ∈ p.next, m.Fits) :
    Yields (· = .malformed) (fun q : Pending => ∀ m ∈ q.next, m.Fits)
      (checkCollection env bound p n) := by
  -- Mappings and sets are checked alike, and so are the two kinds of lists of pairs.
  have hentries {a : Option String} {es : List (Node × Node)} (hes : ∀ e ∈ es, FitsEntry e) :
      Yields (· = .malformed) (fun q : Pending => ∀ m ∈ q.next, m.Fits) (do
        let es ← entriesOf env bound a es
        es.foldlM (fun p e => do checkNode env bound (← checkKey env bound p e.1) e.2)
          { p with texts := defaultKeys env es ++ p.texts }) := by
    refine (mergedEntries_yields henv _ _ hes).bind fun es hes => .foldlM hp fun q hq e he => ?_
    refine (checkKey_yields ((hes e he).1.target henv) hq).bind fun q hq => ?_
    exact checkNode_yields ((hes e he).2.target henv) hq
  have hpair {q : Pending} (hq : ∀ m ∈ q.next, m.Fits) {n k v : Node} (hn : n.Fits)
      (heq : onlyPair? env n = some (k, v)) :
      Yields (· = .malformed) (fun q : Pending => ∀ m ∈ q.next, m.Fits)
        (do checkNode env bound (← checkNode env bound q k) v) := by
    obtain ⟨hk, hv⟩ := onlyPair?_fits (hn.target henv) heq
    refine (checkNode_yields (hk.target henv) hq).bind fun q hq => ?_
    exact checkNode_yields (hv.target henv) hq
  unfold checkCollection
  split
  · cases hn with
    | sequence items =>
      exact .foldlM hp fun q hq n hn => checkNode_yields ((items n hn).target henv) hq
  · cases hn with
    | mapping _ keys values => exact hentries fun e he => ⟨keys e he, values e he⟩
  · cases hn with
    | mapping _ keys values => exact hentries fun e he => ⟨keys e he, values e he⟩
  · cases hn with
    | sequence items =>
      refine .foldlM hp fun q hq n hn => ?_
      split
      · rfl
      · next heq => exact hpair hq (items n hn) heq
  · cases hn with
    | sequence items =>
      refine .foldlM hp fun q hq n hn => ?_
      split
      · rfl
      · next heq => exact hpair hq (items n hn) heq
  · rfl

/-- Level by level, all of a tree is checked; what is left for the next level always fits. -/
theorem checkLevels_yields (henv : ∀ e ∈ env, e.2.Fits) (fuel : Nat)
    (hp : ∀ m ∈ p.next, m.Fits) :
    Yields (· = .malformed) (fun _ => True) (checkLevels env bound fuel p) := by
  induction fuel generalizing p with
  | zero => trivial
  | succ fuel ih =>
    rw [checkLevels]
    refine .ite trivial ?_
    have hlevel : Yields (· = .malformed) (fun q : Pending => ∀ m ∈ q.next, m.Fits)
        (p.next.reverse.foldlM (checkCollection env bound) { p with next := [] }) :=
      .foldlM (fun m hm => nomatch hm) fun q hq n hn =>
        checkCollection_yields henv (hp n (List.mem_reverse.1 hn)) hq
    exact hlevel.bind fun q hq => ih hq

/-- **A tree whose scalars fit their tags describes a document, or is not YAML.** -/
theorem toDoc_yields (h : n.Fits) : Yields (· = .malformed) (fun _ => True) n.toDoc := by
  have henv := h.anchors
  have hcheck (bound : Nat) : Yields (· = .malformed) (fun _ => True) (check n.anchors bound n) :=
    (checkNode_yields (h.target henv) (by simp)).bind fun p hp =>
      checkLevels_yields henv _ hp
  exact (hcheck _).bind fun _ _ => trivial

/-! ### Texts -/

/-- A text is read into a tree of nodes. -/
def IsTree (t : Text) (n : Node) : Prop :=
  ∃ cs, t.chars? = some cs ∧ Node.ofTokens? (tokens cs).1 (tokens cs).2 = .ok (some n)

/-- **A bounded text whose scalars fit their tags holds a document, or is not YAML.** -/
theorem read_yields {t : Text} (h : Bounded t.chars) (hfits : ∀ n, IsTree t n → n.Fits) :
    Yields (· = .malformed) (fun _ => True) (read t) := by
  unfold read
  split
  · next cs hcs =>
    have hchars : t.chars = cs := by
      rw [Text.chars?_eq_some hcs, Text.chars, Text.ofChars, List.map_map]
      exact List.map_id' ..
    unfold readChars
    refine .ite rfl ?_
    dsimp only
    have htree := Node.ofTokens?_yields (tokens cs).1 (tokens_yields (hchars ▸ h))
    cases htokens : Node.ofTokens? (tokens cs).1 (tokens cs).2 with
    | error f =>
      rw [htokens] at htree
      exact htree
    | ok n =>
      cases n with
      | none => trivial
      | some n => exact toDoc_yields (hfits n ⟨cs, hcs, htokens⟩)
  · rfl

end Yaml
end WorkflowKit
