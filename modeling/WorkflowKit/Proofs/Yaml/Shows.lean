/-
# Trees that show a document

A tree of nodes shows a document if it has no anchors, aliases and tags of its own, its scalars are
read as those of the document, and no key of a mapping stands in it twice.  Such a tree has no
faults, and the document is what it describes (`Shows.toDoc_eq`).
-/

import WorkflowKit.Proofs.Outcome
import WorkflowKit.Yaml.Document

namespace WorkflowKit
namespace Yaml

/-- Whether a tag is that of a scalar that stands for itself alone. -/
def Tag.isSimple : Tag → Bool
  | .null | .bool | .int | .text => true
  | _ => false

/-- The tags of such scalars are none of collections. -/
theorem Tag.isCollection_of_isSimple {tag : Tag} (h : tag.isSimple = true) :
    tag.isCollection = false := by
  cases tag <;> first | rfl | cases h

namespace Node

mutual

/-- Whether a node shows a document. -/
inductive Shows : Node → Doc → Prop
  /-- A scalar. -/
  | scalar {place : Nat} {tag : Tag} {t : Text} {s : Scalar} (simple : tag.isSimple = true)
    (value : scalarValue tag t = .ok s) : Shows (.scalar none place tag t) (.scalar s)
  /-- A list. -/
  | list {ns : List Node} {ds : List Doc} (items : ShowsItems ns ds) :
    Shows (.sequence none .sequence ns) (.list ds)
  /-- A mapping. -/
  | map {ns : List (Node × Node)} {es : List (Scalar × Doc)} (entries : ShowsEntries ns es)
    (distinct : Doc.distinctEntries es = es) : Shows (.mapping none .mapping ns) (.map es)

/-- Whether nodes show the items of a list. -/
inductive ShowsItems : List Node → List Doc → Prop
  /-- No items. -/
  | nil : ShowsItems [] []
  /-- An item and others. -/
  | cons {n : Node} {d : Doc} {ns : List Node} {ds : List Doc} (item : Shows n d)
    (rest : ShowsItems ns ds) : ShowsItems (n :: ns) (d :: ds)

/-- Whether nodes show the entries of a mapping. -/
inductive ShowsEntries : List (Node × Node) → List (Scalar × Doc) → Prop
  /-- No entries. -/
  | nil : ShowsEntries [] []
  /-- An entry and others. -/
  | cons {k n : Node} {s : Scalar} {d : Doc} {ns : List (Node × Node)} {es : List (Scalar × Doc)}
    (key : Shows k (.scalar s)) (value : Shows n d) (rest : ShowsEntries ns es) :
    ShowsEntries ((k, n) :: ns) ((s, d) :: es)

end

variable {n k : Node} {d : Doc} {s : Scalar} {t : Text} {tag : Tag} {place : Nat} {ns : List Node}
  {ds : List Doc} {es : List (Node × Node)} {cs : List (Scalar × Doc)} {texts : List Nat}
  {bound : Nat}

/-- Each of some items shows a document. -/
theorem ShowsItems.mem (h : ShowsItems ns ds) : ∀ n ∈ ns, ∃ d, Shows n d := by
  induction ns generalizing ds with
  | nil => exact nofun
  | cons n ns ih =>
    cases h with
    | cons item rest => exact List.forall_mem_cons.2 ⟨⟨_, item⟩, ih rest⟩

/-- Each key shows a scalar, and each value a document. -/
theorem ShowsEntries.mem (h : ShowsEntries es cs) :
    ∀ e ∈ es, (∃ s, Shows e.1 (.scalar s)) ∧ ∃ d, Shows e.2 d := by
  induction es generalizing cs with
  | nil => exact nofun
  | cons e es ih =>
    cases h with
    | cons key value rest =>
      exact List.forall_mem_cons.2 ⟨⟨⟨_, key⟩, ⟨_, value⟩⟩, ih rest⟩

mutual

/-- Nothing in such a tree has an anchor. -/
theorem Shows.anchors_eq : ∀ {n : Node} {d : Doc}, Shows n d → n.anchors = []
  | _, _, .scalar .. => rfl
  | _, _, .list items => items.anchors_eq
  | _, _, .map entries _ => entries.anchors_eq

/-- Nor have items. -/
theorem ShowsItems.anchors_eq : ∀ {ns : List Node} {ds : List Doc}, ShowsItems ns ds →
    anchorsOfItems ns = []
  | _, _, .nil => rfl
  | _, _, .cons item rest => by rw [anchorsOfItems, item.anchors_eq, rest.anchors_eq]; rfl

/-- Nor have entries. -/
theorem ShowsEntries.anchors_eq : ∀ {es : List (Node × Node)} {cs : List (Scalar × Doc)},
    ShowsEntries es cs → anchorsOfEntries es = []
  | _, _, .nil => rfl
  | _, _, .cons key value rest => by
    rw [anchorsOfEntries, key.anchors_eq, value.anchors_eq, rest.anchors_eq]
    rfl

end

/-! ### Values -/

/-- A scalar that stands for itself has its value. -/
theorem plainValue_scalar (simple : tag.isSimple = true) (value : scalarValue tag t = .ok s)
    (texts : List Nat) (hbound : 0 < bound) :
    plainValue [] texts bound (.scalar none place tag t) = .ok (some s) := by
  obtain ⟨bound, rfl⟩ := Nat.exists_eq_add_one_of_ne_zero (Nat.ne_of_gt hbound)
  have hvalue : some <$> scalarValue tag t = .ok (some s) := by rw [value]; rfl
  cases tag <;> first | exact hvalue | cases simple

/-- A key that shows a scalar has the value of the scalar. -/
theorem plainValue_eq (h : Shows k (.scalar s)) (texts : List Nat) (hbound : 0 < bound) :
    plainValue [] texts bound k = .ok (some s) := by
  cases h with
  | scalar simple value => exact plainValue_scalar simple value texts hbound

/-- No key merges other entries into its mapping. -/
theorem Shows.targetTag_ne_merge (h : Shows n d) : n.targetTag [] ≠ .merge := by
  cases h with
  | scalar simple _ =>
    rintro (rfl : _ = _)
    cases simple
  | _ => exact nofun

/-- No key stands for the value of its mapping. -/
theorem Shows.isDefaultKey_eq (h : Shows n d) : isDefaultKey [] texts n = false := by
  cases h with
  | @scalar place tag _ _ simple _ => cases tag <;> first | rfl | cases simple
  | _ => rfl

/-- No entries are merged. -/
theorem ShowsEntries.entriesOf_eq (h : ShowsEntries es cs) (hbound : 0 < bound) :
    entriesOf [] bound none es = .ok es := by
  obtain ⟨bound, rfl⟩ := Nat.exists_eq_add_one_of_ne_zero (Nat.ne_of_gt hbound)
  have hkeys : ∀ e ∈ es, e.1.targetTag [] ≠ .merge := fun e he => by
    obtain ⟨⟨s, hkey⟩, -⟩ := h.mem e he
    exact hkey.targetTag_ne_merge
  have hown : es.filter (fun e => e.1.targetTag [] != .merge) = es :=
    List.filter_eq_self.2 fun e he => by simpa using hkeys e he
  have hmerged : es.filter (fun e => e.1.targetTag [] == .merge) = [] :=
    List.filter_eq_nil_iff.2 fun e he => by simpa using hkeys e he
  rw [entriesOf, Option.toList, mergedEntries, hown, hmerged]
  rfl

/-! ### Faults -/

/-- Whether the collections that are still to be checked show documents. -/
def Sound (p : Pending) : Prop := ∀ n ∈ p.next, n.tag.isCollection = true ∧ ∃ d, Shows n d

/-- A value that shows a document has no faults; a collection waits for the next level. -/
theorem checkValue_yields {p : Pending} (h : Shows n d) (hp : Sound p) (hbound : 0 < bound) :
    Yields (fun _ => False) Sound (checkValue [] bound p n) := by
  cases h with
  | scalar simple value =>
    show Yields _ _ (plainValue [] p.texts bound _ >>= _)
    rw [plainValue_scalar simple value p.texts hbound]
    exact hp
  | list items => exact List.forall_mem_cons.2 ⟨⟨rfl, _, .list items⟩, hp⟩
  | map entries distinct => exact List.forall_mem_cons.2 ⟨⟨rfl, _, .map entries distinct⟩, hp⟩

/-- A node that shows a document has no faults of its own. -/
theorem checkNode_yields {p : Pending} (h : Shows n d) (hp : Sound p) (hbound : 0 < bound) :
    Yields (fun _ => False) Sound (checkNode [] bound p n) := by
  rw [checkNode, h.isDefaultKey_eq]
  exact checkValue_yields h hp hbound

/-- A key that shows a scalar can be looked up, so it has no faults. -/
theorem checkKey_yields {p : Pending} (h : Shows k (.scalar s)) (hp : Sound p)
    (hbound : 0 < bound) : Yields (fun _ => False) Sound (checkKey [] bound p k) := by
  have htag : (k.targetTag []).isCollection = false := by
    cases h with
    | scalar simple _ => exact Tag.isCollection_of_isSimple simple
  rw [checkKey, htag]
  exact checkValue_yields h hp hbound

/-- A collection has no faults, and leaves such collections to be checked. -/
theorem checkCollection_yields {p : Pending} (h : Shows n d) (hn : n.tag.isCollection = true)
    (hp : Sound p) (hbound : 0 < bound) :
    Yields (fun _ => False) Sound (checkCollection [] bound p n) := by
  cases h with
  | scalar simple _ => exact absurd (hn.symm.trans (Tag.isCollection_of_isSimple simple)) nofun
  | list items =>
    refine Yields.foldlM hp fun q hq n hn => ?_
    obtain ⟨d, hd⟩ := items.mem n hn
    exact checkNode_yields hd hq hbound
  | @map es cs entries distinct =>
    show Yields _ _ (entriesOf [] bound none es >>= _)
    rw [entries.entriesOf_eq hbound]
    refine Yields.foldlM hp fun q hq e he => ?_
    obtain ⟨⟨s, hkey⟩, d, hd⟩ := entries.mem e he
    exact (checkKey_yields hkey hq hbound).bind fun r hr => checkNode_yields hd hr hbound

/-- Level by level no faults are found. -/
theorem checkLevels_eq {p : Pending} (hp : Sound p) (hbound : 0 < bound) (fuel : Nat) :
    checkLevels [] bound fuel p = .ok () := by
  induction fuel generalizing p with
  | zero => rfl
  | succ fuel ih =>
    have hlevel : Yields (fun _ => False) Sound
        (p.next.reverse.foldlM (checkCollection [] bound) { p with next := [] }) := by
      refine Yields.foldlM nofun fun q hq n hn => ?_
      obtain ⟨htag, d, hd⟩ := hp n (List.mem_reverse.1 hn)
      exact checkCollection_yields hd htag hq hbound
    obtain ⟨q, hlevel, hq⟩ := hlevel.exists_ok
    rw [checkLevels, hlevel]
    split
    · rfl
    · exact ih hq

/-- **Such a tree has no faults.** -/
theorem Shows.check_eq (h : Shows n d) (hbound : 0 < bound) : check [] bound n = .ok () := by
  obtain ⟨p, hnode, hp⟩ := (checkNode_yields (p := ⟨[], [], []⟩) h nofun hbound).exists_ok
  rw [check, hnode]
  exact checkLevels_eq hp hbound bound

/-! ### Documents -/

mutual

/-- A tree is built into the document that it shows. -/
theorem Shows.build_eq {bound : Nat} (hbound : 0 < bound) (path : List String) :
    ∀ {n : Node} {d : Doc} {fuel : Nat}, Shows n d → n.depth < fuel →
      build [] [] bound fuel path n = d
  | .scalar _ place tag t, _, fuel + 1, .scalar simple value, _ => by
    have hbuild : build [] [] bound (fuel + 1) path (.scalar none place tag t) =
        .scalar (((plainValue [] [] bound (.scalar none place tag t)).toOption.bind id).getD
          .null) := by
      cases tag <;> rfl
    rw [hbuild, plainValue_scalar simple value [] hbound]
    rfl
  | _, _, fuel + 1, .list items, hdepth =>
    congrArg Doc.list (items.build_eq hbound path (Nat.lt_of_succ_lt_succ hdepth))
  | .mapping _ _ es, .map cs, fuel + 1, .map entries distinct, hdepth => by
    have hsub := entries.build_eq hbound path (Nat.lt_of_succ_lt_succ hdepth)
    show Doc.map (Doc.distinctEntries (((entriesOf [] bound none es).toOption.getD []).map
      fun e => (((plainValue [] [] bound e.1).toOption.bind id).getD .null,
        build [] [] bound fuel path e.2))) = _
    rw [entries.entriesOf_eq hbound]
    exact congrArg Doc.map ((congrArg Doc.distinctEntries hsub).trans distinct)

/-- Items are built into the items of the document. -/
theorem ShowsItems.build_eq {bound : Nat} (hbound : 0 < bound) (path : List String) :
    ∀ {ns : List Node} {ds : List Doc} {fuel : Nat}, ShowsItems ns ds → depthOfItems ns < fuel →
      ns.map (build [] [] bound fuel path) = ds
  | _, _, _, .nil, _ => rfl
  | _, _, _, .cons item rest, hdepth => by
    rw [depthOfItems] at hdepth
    rw [List.map_cons, item.build_eq hbound path (by omega), rest.build_eq hbound path (by omega)]

/-- Entries are built into the entries of the document. -/
theorem ShowsEntries.build_eq {bound : Nat} (hbound : 0 < bound) (path : List String) :
    ∀ {es : List (Node × Node)} {cs : List (Scalar × Doc)} {fuel : Nat}, ShowsEntries es cs →
      depthOfEntries es < fuel →
      es.map (fun e => (((plainValue [] [] bound e.1).toOption.bind id).getD .null,
        build [] [] bound fuel path e.2)) = cs
  | _, _, _, .nil, _ => rfl
  | _, _, _, .cons key value rest, hdepth => by
    rw [depthOfEntries] at hdepth
    rw [List.map_cons, plainValue_eq key [] hbound, value.build_eq hbound path (by omega),
      rest.build_eq hbound path (by omega)]
    rfl

end

/-- **A tree describes the document that it shows.** -/
theorem Shows.toDoc_eq (h : Shows n d) : n.toDoc = .ok d := by
  have hbound : n.depth < wayBound [] n (unfoldings + 1) := by
    show n.depth < (n.depth + 2) * ((unfoldings + 1) * 0 + 1) + 1
    omega
  have hpos : 0 < wayBound [] n (unfoldings + 1) := Nat.zero_lt_of_lt hbound
  simp only [toDoc, h.anchors_eq]
  rw [h.check_eq hpos]
  exact congrArg Except.ok (h.build_eq hpos [] hbound)

end Node
end Yaml
end WorkflowKit
