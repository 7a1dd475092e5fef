/-
# Resolving is one substitution

What resolving does to a text is said in terms of its references alone: the code points between them
stay, and every reference gives way to its replacement (`substituted`).  What a replacement brings
in is not looked at, since all places are those of the text as it was.  Resolving works with the
places of the changed text, but from the last reference on, so that the places of those that are
still to be replaced are the same in both (`foldrM_outcome`).

A reference is replaced by what its target means (`Resolver.meaning?`): a variable means its value,
and a property the text of its value, unless that is absent.  A reference without a meaning stays.

A document keeps everything but its texts (`Doc.mapTexts`).  It cannot be resolved if there is no
room to go through it, if a target is unknown to a strict resolver, or if it has a value without a
text (`Resolver.IsDueTo`); of several reasons any one may be reported.  Since of the properties and
variables only the values of the targets count (`resolveDoc_congr`), the tables of a resolver stand
for any way to look them up.
-/

import WorkflowKit.Proofs.Outcome
import WorkflowKit.Proofs.Template.Placeholder
import WorkflowKit.Proofs.Template.Texts
import WorkflowKit.Proofs.Value.Entries

namespace WorkflowKit
namespace Template

/-- The targets of the references of a text. -/
def targets (s : Text) : List Target := (references s).map Reference.target

/-- What the texts of a document refer to. -/
def targetsOfTexts (ss : List Text) : List Target := ss.flatMap targets

/-- Code points with references replaced: those from `pos` up to the first reference stay, then
comes its replacement, and so on behind it. -/
def substituted (replacement : Reference → List CodePoint) (ps : List CodePoint) (pos : Nat) :
    List Reference → List CodePoint
  | [] => ps.drop pos
  | x :: xs =>
    (ps.take x.start).drop pos ++ replacement x ++ substituted replacement ps x.stop xs

/-! ### Where references stand -/

/-- A reference is what stands between its places in some code points. -/
structure Reference.StandsIn (x : Reference) (ps : List CodePoint) : Prop where
  /-- It begins before it ends. -/
  ordered : x.start ≤ x.stop
  /-- It ends in the code points. -/
  bounded : x.stop ≤ ps.length
  /-- What stands there. -/
  text : x.text.points = (ps.take x.stop).drop x.start

/-- References stand in code points one behind the other, from the place `pos` on. -/
def StandFrom (ps : List CodePoint) : Nat → List Reference → Prop
  | _, [] => True
  | pos, x :: xs => pos ≤ x.start ∧ x.StandsIn ps ∧ StandFrom ps x.stop xs

/-- References that stand from a place on stand from any place before it on. -/
theorem StandFrom.mono {ps : List CodePoint} {pos pos' : Nat} {xs : List Reference}
    (hxs : StandFrom ps pos xs) (h : pos' ≤ pos) : StandFrom ps pos' xs := by
  cases xs with
  | nil => trivial
  | cons x xs => exact ⟨Nat.le_trans h hxs.1, hxs.2⟩

/-- The references among parts stand one behind the other where the parts are put together. -/
theorem standFrom_referencesFrom (before : List CodePoint) (qs : List Piece) :
    StandFrom (before ++ qs.flatMap Piece.points) before.length
      (referencesFrom before.length qs) := by
  induction qs generalizing before with
  | nil => trivial
  | cons q qs ih =>
    cases q with
    | plain ps =>
      have hrest := ih (before ++ ps)
      rw [List.length_append, List.append_assoc] at hrest
      exact hrest.mono (Nat.le_add_right ..)
    | reference ps t =>
      have hrest := ih (before ++ ps)
      rw [List.length_append, List.append_assoc] at hrest
      refine ⟨Nat.le_refl _, ⟨Nat.le_add_right .., ?_, ?_⟩, hrest⟩
      · rw [List.length_append, List.flatMap_cons, List.length_append]
        exact Nat.add_le_add_left (Nat.le_add_right ..) _
      · dsimp only
        rw [List.flatMap_cons, Piece.points, ← List.append_assoc, ← List.length_append,
          List.take_left, List.drop_left]

/-- The references of a text stand in it one behind the other, as the scanner finds them from the
left. -/
theorem standFrom_references (s : Text) : StandFrom s.points 0 (references s) := by
  have h := standFrom_referencesFrom [] (pieces s)
  rw [List.nil_append, flatMap_points_pieces] at h
  exact h

/-- What stands between two places and what stands behind the second one. -/
theorem drop_take_append_drop_of_le (ps : List CodePoint) {i j : Nat} (h : i ≤ j) :
    (ps.take j).drop i ++ ps.drop j = ps.drop i := by
  obtain ⟨k, rfl⟩ := Nat.exists_eq_add_of_le h
  rw [List.drop_take, Nat.add_sub_cancel_left, List.drop_take_append_drop]

/-- What stands before a place and what stands between it and a later one. -/
theorem take_append_drop_take_of_le (ps : List CodePoint) {i j : Nat} (h : i ≤ j) :
    ps.take i ++ (ps.take j).drop i = ps.take j := by
  rw [← Nat.min_eq_left h, ← List.take_take, Nat.min_eq_left h, List.take_append_drop]

/-- Code points stay as they are if every reference is replaced by itself. -/
theorem substituted_eq_drop {replacement : Reference → List CodePoint} {ps : List CodePoint}
    {pos : Nat} {xs : List Reference} (hxs : StandFrom ps pos xs)
    (h : ∀ x ∈ xs, replacement x = x.text.points) :
    substituted replacement ps pos xs = ps.drop pos := by
  induction xs generalizing pos with
  | nil => rfl
  | cons x xs ih =>
    obtain ⟨hpos, hx, hrest⟩ := hxs
    rw [List.forall_mem_cons] at h
    rw [substituted, ih hrest h.2, h.1, hx.text, List.append_assoc,
      drop_take_append_drop_of_le ps hx.ordered, drop_take_append_drop_of_le ps hpos]

namespace Resolver

variable {r r' : Resolver} {s : Text} {ts : List Target} {deep : Prop} {room : Option Room}

/-! ### What targets mean -/

/-- The text that a target stands for: a variable for its value, and a property for the text of its
value, unless that is absent. -/
def meaning? (r : Resolver) (t : Target) : Option Text :=
  match t.root with
  | .env => (lookup? t.key r.env).map Text.ofString
  | .property =>
    match lookup? t.key r.properties with
    | none | some .null => none
    | some v => some v.asText

/-- A property whose value holds an integer that is too long to be written. -/
def Unwritable (r : Resolver) (t : Target) : Prop :=
  t.root = .property ∧ ∃ v, lookup? t.key r.properties = some v ∧ v.holdsLongInt = true

/-- What a reference is replaced by: what its target means, or itself if that means nothing. -/
def replacement (r : Resolver) (x : Reference) : List CodePoint :=
  ((r.meaning? x.target).getD x.text).points

/-- A text with all its references replaced. -/
def replaced (r : Resolver) (s : Text) : Text :=
  ⟨substituted r.replacement s.points 0 (references s)⟩

/-- What may be reported as the reason for which a document with some targets cannot be resolved,
where `deep` says that there is too little room for it. -/
def IsDueTo (r : Resolver) (ts : List Target) (deep : Prop) : ResolveFault → Prop
  | .unknown t _ => r.strict = true ∧ t ∈ ts ∧ r.meaning? t = none
  | .digits _ => ∃ t ∈ ts, r.Unwritable t
  | .nested => deep

/-- No target keeps a document from being resolved. -/
def Settles (r : Resolver) (ts : List Target) : Prop :=
  ∀ t ∈ ts, ¬ r.Unwritable t ∧ (r.strict = true → r.meaning? t ≠ none)

/-- If no target of either list stands in the way, none of both together does. -/
theorem settles_append {us : List Target} (hts : r.Settles ts) (hus : r.Settles us) :
    r.Settles (ts ++ us) :=
  fun t ht => (List.mem_append.1 ht).elim (hts t) (hus t)

/-! ### Texts -/

/-- What a target means is the text of its value. -/
theorem meaning?_eq (r : Resolver) (t : Target) :
    r.meaning? t = (r.value? t).map Value.asText := by
  rw [meaning?, value?]
  cases t.root with
  | env =>
    dsimp only
    cases lookup? t.key r.env <;> rfl
  | property =>
    dsimp only
    cases lookup? t.key r.properties with
    | none => rfl
    | some v => cases v <;> rfl

/-- A target has a value without a text exactly if the value that is looked up holds a long integer:
variables are texts, so only properties do. -/
theorem unwritable_iff {t : Target} :
    r.Unwritable t ↔ ∃ v, r.value? t = some v ∧ v.holdsLongInt = true := by
  rw [Unwritable, value?]
  cases t.root with
  | env =>
    refine ⟨fun h => Root.noConfusion h.1, ?_⟩
    rintro ⟨v, hv, hlong⟩
    obtain ⟨s, -, rfl⟩ := Option.map_eq_some_iff.1 hv
    cases hlong
  | property =>
    dsimp only
    cases lookup? t.key r.properties with
    | none => simp
    | some v => cases v <;> simp [Value.holdsLongInt]

/-- What is put in for a reference is what its target means. -/
theorem textOf?_outcome {x : Reference} (hx : x.target ∈ ts) :
    Yields (r.IsDueTo ts deep) (fun o => o = r.meaning? x.target ∧ r.Settles [x.target])
      (r.textOf? x) := by
  have hmeaning := r.meaning?_eq x.target
  have hlong : r.Unwritable x.target ↔ _ := unwritable_iff
  rw [textOf?]
  cases hv : r.value? x.target with
  | some v =>
    rw [hv] at hmeaning hlong
    dsimp only
    rw [Value.tryText]
    split
    · next h => exact ⟨_, hx, hlong.2 ⟨v, rfl, h⟩⟩
    · next h =>
      refine ⟨hmeaning.symm, List.forall_mem_singleton.2 ⟨fun hw => ?_, fun _ => ?_⟩⟩
      · obtain ⟨w, hw, hlongw⟩ := hlong.1 hw
        exact h (Option.some.inj hw ▸ hlongw)
      · rw [hmeaning]
        exact Option.some_ne_none _
  | none =>
    rw [hv] at hmeaning hlong
    dsimp only
    split
    · next h => exact ⟨h, hx, hmeaning⟩
    · next h =>
      refine ⟨hmeaning.symm, List.forall_mem_singleton.2 ⟨fun hw => ?_, fun h' => absurd h' h⟩⟩
      obtain ⟨w, hw, -⟩ := hlong.1 hw
      cases hw

/-- Replacing one reference where the code points up to its end are still those of the text. -/
theorem replace_outcome {x : Reference} {ps rest : List CodePoint} (hx : x.StandsIn ps)
    (ht : x.target ∈ ts) :
    Yields (r.IsDueTo ts deep)
      (fun out => out = ps.take x.start ++ r.replacement x ++ rest ∧ r.Settles [x.target])
      (r.replace (ps.take x.stop ++ rest) x) := by
  have hlength : (ps.take x.stop).length = x.stop := by
    rw [List.length_take, Nat.min_eq_left hx.bounded]
  refine (textOf?_outcome ht).bind fun o ho => ?_
  rw [replacement, ← ho.1]
  cases o with
  | some t =>
    refine ⟨?_, ho.2⟩
    have htake : (ps.take x.stop ++ rest).take x.start = ps.take x.start := by
      rw [List.take_append_of_le_length (hlength.symm ▸ hx.ordered), List.take_take,
        Nat.min_eq_left hx.ordered]
    rw [htake, List.drop_left' hlength]
    rfl
  | none =>
    refine ⟨?_, ho.2⟩
    rw [Option.getD_none, hx.text, take_append_drop_take_of_le ps hx.ordered]

/-- **Replacing references one by one from the last one on is replacing them all at once.** -/
theorem foldrM_outcome {ps : List CodePoint} {pos : Nat} {xs : List Reference}
    (hxs : StandFrom ps pos xs) (hts : ∀ x ∈ xs, x.target ∈ ts) :
    Yields (r.IsDueTo ts deep)
      (fun out => out = ps.take pos ++ substituted r.replacement ps pos xs ∧
        r.Settles (xs.map Reference.target))
      (xs.foldrM (fun x ps => r.replace ps x) ps) := by
  induction xs generalizing pos with
  | nil => exact ⟨(List.take_append_drop pos ps).symm, List.forall_mem_nil _⟩
  | cons x xs ih =>
    obtain ⟨hpos, hx, hrest⟩ := hxs
    rw [List.forall_mem_cons] at hts
    rw [List.foldrM_cons]
    refine (ih hrest hts.2).bind fun inner hinner => ?_
    rw [hinner.1]
    refine (replace_outcome hx hts.1).mono fun out hout => ⟨?_, ?_⟩
    · rw [hout.1, substituted, ← List.append_assoc, ← List.append_assoc,
        take_append_drop_take_of_le ps hpos]
    · exact settles_append hout.2 hinner.2

/-- A text is resolved to the text with all its references replaced, or some target of it says why
not. -/
theorem text_outcome (s : Text) (hs : ∀ t ∈ targets s, t ∈ ts) :
    Yields (r.IsDueTo ts deep) (fun out => out = r.replaced s ∧ r.Settles (targets s))
      (r.text s) := by
  rw [text, List.foldlM_reverse]
  exact (foldrM_outcome (standFrom_references s) fun x hx => hs _ (List.mem_map_of_mem hx)).map
    fun out hout => ⟨congrArg Text.mk hout.1, hout.2⟩

/-! ### Documents -/

/-- What goes on inside of some calls, for which there may be too little room. -/
theorem inside_bind {α : Type} {fault : ResolveFault → Prop} {post : α → Prop} {n : Nat}
    {k : Option Room → Except ResolveFault α} (hdeep : ¬ (∀ q ∈ room, n ≤ q.calls) → fault .nested)
    (hk : (∀ q ∈ room, n ≤ q.calls) →
      Yields fault post (k (room.map fun q => { q with calls := q.calls - n }))) :
    Yields fault post (Room.inside n room >>= k) := by
  cases room with
  | none => exact hk fun q hq => nomatch hq
  | some q =>
    rw [Room.inside]
    split
    · next h => exact hk fun q' hq' => Option.some.inj hq' ▸ h
    · next h => exact hdeep fun hq => h (hq q rfl)

/-- What goes on inside of a collection, which may occur in itself. -/
theorem within_bind {α : Type} {fault : ResolveFault → Prop} {post : α → Prop} {id : Nat}
    {k : Option Room → Except ResolveFault α} (hdeep : ¬ (∀ q ∈ room, id ∉ q.path) → fault .nested)
    (hk : (∀ q ∈ room, id ∉ q.path) →
      Yields fault post (k (room.map fun q => { q with path := id :: q.path }))) :
    Yields fault post (Room.within id room >>= k) := by
  cases room with
  | none => exact hk fun q hq => nomatch hq
  | some q =>
    rw [Room.within]
    split
    · next h => exact hdeep fun hq => hq q rfl (List.contains_iff_mem.1 h)
    · next h => exact hk fun q' hq' hid => h (List.contains_iff_mem.2 (Option.some.inj hq' ▸ hid))

mutual

/-- **A document is resolved to the one with its texts replaced**, or there is a reason against
it. -/
theorem resolveDoc_outcome (room : Option Room) (d : Doc)
    (hd : ∀ t ∈ targetsOfTexts d.texts, t ∈ ts) (hdeep : ¬ d.FitsIn room → deep) :
    Yields (r.IsDueTo ts deep)
      (fun e => e = d.mapTexts r.replaced ∧ r.Settles (targetsOfTexts d.texts) ∧ d.FitsIn room)
      (r.resolveDoc room d) := by
  -- At every level the calls have to fit first; only then are the items resolved, in the room that
  -- is left.
  match d with
  | .scalar (.text s) =>
    have htargets : targetsOfTexts (Doc.scalar (.text s)).texts = targets s := by
      simp [Doc.texts, targetsOfTexts]
    have hfits : (Doc.scalar (.text s)).FitsIn room ↔ ∀ q ∈ room, textCalls s ≤ q.calls := by
      simp [Doc.FitsIn, Doc.fits]
    rw [htargets] at hd ⊢
    rw [hfits] at hdeep ⊢
    exact inside_bind hdeep fun hroom => (text_outcome s hd).map fun out hout =>
      ⟨by rw [hout.1]; rfl, hout.2, hroom⟩
  | .list ds =>
    rw [Doc.fitsIn_list] at hdeep ⊢
    refine inside_bind (fun h => hdeep fun hfits => h hfits.1) fun hroom => ?_
    refine (resolveDocs_outcome _ ds hd fun h => hdeep fun hfits => h hfits.2).map fun es hes => ?_
    exact ⟨by rw [hes.1]; rfl, hes.2.1, hroom, hes.2.2⟩
  | .map es =>
    rw [Doc.fitsIn_map] at hdeep ⊢
    refine inside_bind (fun h => hdeep fun hfits => h hfits.1) fun hroom => ?_
    refine (resolveDocEntries_outcome _ es hd fun h => hdeep fun hfits => h hfits.2).map
      fun fs hfs => ?_
    exact ⟨by rw [hfs.1]; rfl, hfs.2.1, hroom, hfs.2.2⟩
  | .shared id d =>
    rw [Doc.fitsIn_shared] at hdeep ⊢
    refine within_bind (fun h => hdeep fun hfits => h hfits.1) fun hroom => ?_
    refine (resolveDoc_outcome _ d hd fun h => hdeep fun hfits => h hfits.2).map fun e he => ?_
    exact ⟨by rw [he.1]; rfl, he.2.1, hroom, he.2.2⟩
  | .pairs ps =>
    have hfits : (Doc.pairs ps).FitsIn room ↔ ∀ q ∈ room, pairsCalls ps ≤ q.calls := by
      simp [Doc.FitsIn, Doc.fits]
    rw [hfits] at hdeep ⊢
    exact inside_bind hdeep fun hroom => ⟨rfl, List.forall_mem_nil _, hroom⟩
  | .scalar .null | .scalar (.bool _) | .scalar (.int _) | .scalar (.float _) | .scalar (.bytes _)
  | .scalar (.date _) | .scalar (.instant _) | .set _ =>
    simp only [Doc.FitsIn, Doc.fits, decide_eq_true_eq] at hdeep ⊢
    exact inside_bind hdeep fun hroom => ⟨rfl, List.forall_mem_nil _, hroom⟩

/-- The items of a list are resolved one by one, each with the room that the list leaves. -/
theorem resolveDocs_outcome (room : Option Room) (ds : List Doc)
    (hds : ∀ t ∈ targetsOfTexts (Doc.textsOfItems ds), t ∈ ts)
    (hdeep : ¬ Doc.ItemsFitIn room ds → deep) :
    Yields (r.IsDueTo ts deep) (fun es => es = Doc.mapItems r.replaced ds ∧
      r.Settles (targetsOfTexts (Doc.textsOfItems ds)) ∧ Doc.ItemsFitIn room ds)
      (r.resolveDocs room ds) := by
  match ds with
  | [] => exact ⟨rfl, List.forall_mem_nil _, fun _ _ => rfl⟩
  | d :: ds =>
    rw [Doc.textsOfItems, targetsOfTexts, List.flatMap_append, List.forall_mem_append] at hds
    rw [Doc.itemsFitIn_cons] at hdeep ⊢
    have hfirst : ¬ d.FitsIn room → deep := fun h => hdeep fun hfits => h hfits.1
    have hothers : ¬ Doc.ItemsFitIn room ds → deep := fun h => hdeep fun hfits => h hfits.2
    refine (resolveDoc_outcome room d hds.1 hfirst).bind fun e he =>
      (resolveDocs_outcome room ds hds.2 hothers).bind fun es hes =>
        ⟨by rw [he.1, hes.1]; rfl, ?_, he.2.2, hes.2.2⟩
    rw [Doc.textsOfItems, targetsOfTexts, List.flatMap_append]
    exact settles_append he.2.1 hes.2.1

/-- The values of a mapping are resolved one by one, each with the room that the mapping leaves; its
keys are not looked at. -/
theorem resolveDocEntries_outcome (room : Option Room) (es : List (Scalar × Doc))
    (hes : ∀ t ∈ targetsOfTexts (Doc.textsOfEntries es), t ∈ ts)
    (hdeep : ¬ Doc.EntriesFitIn room es → deep) :
    Yields (r.IsDueTo ts deep) (fun fs => fs = Doc.mapEntries r.replaced es ∧
      r.Settles (targetsOfTexts (Doc.textsOfEntries es)) ∧ Doc.EntriesFitIn room es)
      (r.resolveDocEntries room es) := by
  match es with
  | [] => exact ⟨rfl, List.forall_mem_nil _, fun _ _ => rfl⟩
  | (k, d) :: es =>
    rw [Doc.textsOfEntries, targetsOfTexts, List.flatMap_append, List.forall_mem_append] at hes
    rw [Doc.entriesFitIn_cons] at hdeep ⊢
    have hfirst : ¬ d.FitsIn room → deep := fun h => hdeep fun hfits => h hfits.1
    have hothers : ¬ Doc.EntriesFitIn room es → deep := fun h => hdeep fun hfits => h hfits.2
    refine (resolveDoc_outcome room d hes.1 hfirst).bind fun e he =>
      (resolveDocEntries_outcome room es hes.2 hothers).bind fun fs hfs =>
        ⟨by rw [he.1, hfs.1]; rfl, ?_, he.2.2, hfs.2.2⟩
    rw [Doc.textsOfEntries, targetsOfTexts, List.flatMap_append]
    exact settles_append he.2.1 hfs.2.1

end

/-- A document is resolved to the document with its texts replaced, and then no target stood in the
way and there was room; or the fault is due to one of these. -/
theorem resolveDoc_yields (r : Resolver) (room : Option Room) (d : Doc) :
    Yields (r.IsDueTo (targetsOfTexts d.texts) (¬ d.FitsIn room))
      (fun e => e = d.mapTexts r.replaced ∧ r.Settles (targetsOfTexts d.texts) ∧ d.FitsIn room)
      (r.resolveDoc room d) :=
  resolveDoc_outcome room d (fun _ => id) id

/-! ### What resolving depends on -/

/-- Two resolvers treat a target alike: it has the same value, and if it has none, that is a fault
to both or to neither. -/
structure Alike (r r' : Resolver) (t : Target) : Prop where
  /-- The value is the same. -/
  value : r.value? t = r'.value? t
  /-- An unknown key is the same to both. -/
  strict : r.value? t = none → r.strict = r'.strict

/-- A reference is replaced alike by resolvers that treat its target alike. -/
theorem replace_congr {x : Reference} (h : Alike r r' x.target) (ps : List CodePoint) :
    r.replace ps x = r'.replace ps x := by
  have htext : r.textOf? x = r'.textOf? x := by
    rw [textOf?, textOf?, ← h.value]
    cases hv : r.value? x.target with
    | some v => rfl
    | none => rw [h.strict hv]
  rw [replace, replace, htext]

/-- A text is resolved alike by resolvers that treat its targets alike. -/
theorem text_congr (h : ∀ t ∈ targets s, Alike r r' t) : r.text s = r'.text s := by
  have hfold (xs : List Reference) (ps : List CodePoint)
      (hxs : ∀ x ∈ xs, Alike r r' x.target) : xs.foldlM r.replace ps = xs.foldlM r'.replace ps := by
    induction xs generalizing ps with
    | nil => rfl
    | cons x xs ih =>
      rw [List.forall_mem_cons] at hxs
      rw [List.foldlM_cons, List.foldlM_cons, replace_congr hxs.1]
      exact bind_congr fun qs => ih qs hxs.2
  rw [text, text, hfold _ _ fun x hx => h _ (List.mem_map_of_mem (List.mem_reverse.1 hx))]

mutual

/-- **Only the values of the targets count**, and whether an unknown one is a fault. -/
theorem resolveDoc_congr (room : Option Room) (d : Doc)
    (h : ∀ t ∈ targetsOfTexts d.texts, Alike r r' t) :
    r.resolveDoc room d = r'.resolveDoc room d := by
  match d with
  | .scalar (.text s) =>
    rw [resolveDoc, resolveDoc, text_congr fun t ht =>
      h t (List.mem_flatMap.2 ⟨s, List.mem_singleton_self s, ht⟩)]
  | .list ds =>
    rw [resolveDoc, resolveDoc]
    exact bind_congr fun room => congrArg _ (resolveDocs_congr room ds h)
  | .map es =>
    rw [resolveDoc, resolveDoc]
    exact bind_congr fun room => congrArg _ (resolveDocEntries_congr room es h)
  | .shared id d =>
    rw [resolveDoc, resolveDoc]
    exact bind_congr fun room => congrArg _ (resolveDoc_congr room d h)
  | .scalar .null | .scalar (.bool _) | .scalar (.int _) | .scalar (.float _) | .scalar (.bytes _)
  | .scalar (.date _) | .scalar (.instant _) | .set _ | .pairs _ => rfl

/-- The same for the items of a list. -/
theorem resolveDocs_congr (room : Option Room) (ds : List Doc)
    (h : ∀ t ∈ targetsOfTexts (Doc.textsOfItems ds), Alike r r' t) :
    r.resolveDocs room ds = r'.resolveDocs room ds := by
  match ds with
  | [] => rfl
  | d :: ds =>
    rw [Doc.textsOfItems, targetsOfTexts, List.flatMap_append, List.forall_mem_append] at h
    rw [resolveDocs, resolveDocs, resolveDoc_congr room d h.1, resolveDocs_congr room ds h.2]

/-- The same for the entries of a mapping. -/
theorem resolveDocEntries_congr (room : Option Room) (es : List (Scalar × Doc))
    (h : ∀ t ∈ targetsOfTexts (Doc.textsOfEntries es), Alike r r' t) :
    r.resolveDocEntries room es = r'.resolveDocEntries room es := by
  match es with
  | [] => rfl
  | (k, d) :: es =>
    rw [Doc.textsOfEntries, targetsOfTexts, List.flatMap_append, List.forall_mem_append] at h
    rw [resolveDocEntries, resolveDocEntries, resolveDoc_congr room d h.1,
      resolveDocEntries_congr room es h.2]

end

/-- A text stays as it is if none of its targets means anything. -/
theorem replaced_eq_self (h : ∀ t ∈ targets s, r.meaning? t = none) : r.replaced s = s := by
  have hself : ∀ x ∈ references s, r.replacement x = x.text.points := by
    intro x hx
    rw [replacement, h _ (List.mem_map_of_mem hx), Option.getD_none]
  rw [replaced, substituted_eq_drop (standFrom_references s) hself]
  rfl

/-- No property holds an integer that is too long to be written. -/
def Writable (r : Resolver) : Prop := ∀ e ∈ r.properties, e.2.holdsLongInt = false

/-- Without properties there is none that cannot be written. -/
theorem writable_of_nil (h : r.properties = []) : r.Writable := by
  rw [Writable, h]
  exact List.forall_mem_nil _

/-! ### The outcome of resolving -/

/-- The resolver to which an unknown key is no fault. -/
def lenient (r : Resolver) : Resolver := { r with strict := false }

/-- Whether a target of a document means nothing to a resolver. -/
def Misses (r : Resolver) (d : Doc) : Prop := ∃ t ∈ targetsOfTexts d.texts, r.meaning? t = none

/-- No target of a document has a value without a text. -/
def Writes (r : Resolver) (d : Doc) : Prop := ∀ t ∈ targetsOfTexts d.texts, ¬ r.Unwritable t

/-- If all properties can be written, those that a document refers to can. -/
theorem Writable.writes (h : r.Writable) (d : Doc) : r.Writes d := by
  rintro t - ⟨-, v, hv, hlong⟩
  exact Bool.false_ne_true ((h _ (mem_of_lookup? hv)).symm.trans hlong)

/-- With room, and a text for every value, nothing but an unknown key is a fault. -/
theorem exists_unknown_of_error {d : Doc} {f : ResolveFault} (hroom : d.FitsIn room)
    (hwrites : r.Writes d) (hf : r.resolveDoc room d = .error f) :
    (∃ t p, f = .unknown t p) ∧ r.strict = true ∧ r.Misses d := by
  have hdue := (r.resolveDoc_yields room d).error_of hf
  cases f with
  | unknown t p => exact ⟨⟨t, p, rfl⟩, hdue.1, t, hdue.2⟩
  | digits g =>
    obtain ⟨t, ht, hlong⟩ := hdue
    exact absurd hlong (hwrites t ht)
  | nested => exact absurd hroom hdue

/-- What is resolved had room, a text for every value, and no unknown key that counts. -/
theorem of_resolveDoc_eq_ok {d e : Doc} (h : r.resolveDoc room d = .ok e) :
    e = d.mapTexts r.replaced ∧ d.FitsIn room ∧ r.Writes d ∧
      ¬ (r.strict = true ∧ r.Misses d) := by
  obtain ⟨he, hsettles, hroom⟩ := (r.resolveDoc_yields room d).ok_of h
  refine ⟨he, hroom, fun t ht => (hsettles t ht).1, ?_⟩
  rintro ⟨hstrict, t, ht, hnone⟩
  exact (hsettles t ht).2 hstrict hnone

/-- A document for which there is room stays as it is if none of its targets is known, and that is
no fault. -/
theorem resolveDoc_eq_self {d : Doc} (hstrict : r.strict = false) (hroom : d.FitsIn room)
    (h : ∀ t ∈ targetsOfTexts d.texts, r.value? t = none) : r.resolveDoc room d = .ok d := by
  have hmeaning : ∀ t ∈ targetsOfTexts d.texts, r.meaning? t = none := by
    intro t ht
    rw [meaning?_eq, h t ht, Option.map_none]
  have hwrites : r.Writes d := by
    intro t ht hlong
    obtain ⟨v, hv, -⟩ := unwritable_iff.1 hlong
    rw [h t ht] at hv
    cases hv
  cases hd : r.resolveDoc room d with
  | ok e =>
    rw [(of_resolveDoc_eq_ok hd).1, Doc.mapTexts_eq_self d fun s hs =>
      replaced_eq_self fun t ht => hmeaning t (List.mem_flatMap.2 ⟨s, hs, ht⟩)]
  | error f =>
    rw [(exists_unknown_of_error hroom hwrites hd).2.1] at hstrict
    cases hstrict

/-- **Resolving is one simultaneous substitution.**  It results in the document that keeps its
shape, its keys and all values but its texts, where each text has all its references replaced by
what they mean: exactly if there is room to go through the document, all values that it refers to
have a text, and the resolver is not strict or the document refers to nothing unknown.  If there is
room and all these values have a text, an unknown key is reported if and only if the resolver is
strict and the document refers to one.  Without an unknown key it makes no difference whether the
resolver is strict. -/
theorem resolveDoc_eq (r : Resolver) (room : Option Room) (d : Doc) :
    (∀ e, r.resolveDoc room d = .ok e ↔ e = d.mapTexts r.replaced ∧ d.FitsIn room ∧ r.Writes d ∧
        ¬ (r.strict = true ∧ r.Misses d)) ∧
      (d.FitsIn room → r.Writes d →
        ((∃ t p, r.resolveDoc room d = .error (.unknown t p)) ↔ r.strict = true ∧ r.Misses d)) ∧
      (¬ (r.strict = true ∧ r.Misses d) → r.lenient.resolveDoc room d = r.resolveDoc room d) := by
  refine ⟨fun e => ⟨of_resolveDoc_eq_ok, ?_⟩, fun hroom hwrites => ⟨?_, ?_⟩, fun hknown => ?_⟩
  · rintro ⟨rfl, hroom, hwrites, hknown⟩
    cases hd : r.resolveDoc room d with
    | ok e => rw [(of_resolveDoc_eq_ok hd).1]
    | error f => exact absurd (exists_unknown_of_error hroom hwrites hd).2 hknown
  · rintro ⟨t, p, hd⟩
    exact (exists_unknown_of_error hroom hwrites hd).2
  · intro hmisses
    cases hd : r.resolveDoc room d with
    | ok e => exact absurd hmisses (of_resolveDoc_eq_ok hd).2.2.2
    | error f =>
      obtain ⟨⟨t, p, rfl⟩, -⟩ := exists_unknown_of_error hroom hwrites hd
      exact ⟨t, p, rfl⟩
  · refine resolveDoc_congr room d fun t ht => ⟨rfl, fun hnone => ?_⟩
    have hmeaning : r.meaning? t = none := by
      rw [meaning?_eq]
      exact congrArg (Option.map Value.asText) hnone
    cases hstrict : r.strict with
    | false => rfl
    | true => exact absurd ⟨hstrict, t, ht, hmeaning⟩ hknown

/-- A strict resolver with a value that looks like a reference. -/
def orderResolver : Resolver :=
  ⟨[("name", .text ↑"\x7b\x7b property.days \x7d\x7d"), ("days", .int 30)], [("REGION", "eu")],
    true⟩

/-- A document with references to both tables. -/
def orderDoc : Doc :=
  .map [(.text ↑"name",
      .scalar (.text ↑"\x7b\x7bproperty.name\x7d\x7d in \x7b\x7b env.REGION \x7d\x7d")),
    (.int 1, .list [.scalar (.int 7),
      .scalar (.text ↑"after \x7b\x7b property.days\x7d\x7d days")])]

/-- The document of an order with its references replaced. -/
def resolvedOrderDoc : Doc :=
  .map [(.text ↑"name", .scalar (.text ↑"\x7b\x7b property.days \x7d\x7d in eu")),
    (.int 1, .list [.scalar (.int 7), .scalar (.text ↑"after 30 days")])]

/-- What is put in is not resolved again, even if it looks like a reference.  A strict resolver
without the property for the days reports one of the unknown keys, and one that is not strict leaves
them in their places. -/
theorem resolveDoc_eq_order :
    orderResolver.resolveDoc (some .initial) orderDoc = .ok resolvedOrderDoc ∧
      (∃ t p, (⟨[], orderResolver.env, true⟩ : Resolver).resolveDoc (some .initial) orderDoc =
        .error (.unknown t p)) ∧
      (⟨[], [], false⟩ : Resolver).resolveDoc (some .initial) orderDoc = .ok orderDoc := by
  have htargets : targetsOfTexts orderDoc.texts =
      [⟨.property, "name"⟩, ⟨.env, "REGION"⟩, ⟨.property, "days"⟩] := by decide +kernel
  have hroom : orderDoc.FitsIn (some .initial) := by
    rintro q ⟨⟩
    decide +kernel
  have hwritable : orderResolver.Writable :=
    List.forall_mem_cons.2 ⟨by decide, List.forall_mem_singleton.2 (by decide +kernel)⟩
  refine ⟨((resolveDoc_eq orderResolver (some .initial) orderDoc).1 _).2
      ⟨by rfl, hroom, hwritable.writes _, ?_⟩,
    ((resolveDoc_eq _ (some .initial) orderDoc).2.1 hroom ?_).2 ⟨rfl, ?_⟩,
    ((resolveDoc_eq _ (some .initial) orderDoc).1 _).2 ⟨by rfl, hroom, ?_, ?_⟩⟩
  · rintro ⟨-, hmisses⟩
    rw [Misses, htargets] at hmisses
    revert hmisses
    decide +kernel
  · exact (writable_of_nil rfl).writes _
  · rw [Misses, htargets]
    exact ⟨_, List.mem_cons_self, rfl⟩
  · exact (writable_of_nil rfl).writes _
  · rintro ⟨⟨⟩, -⟩

/-- Lists in each other. -/
def nestedList : Nat → Doc
  | 0 => .list []
  | n + 1 => .list [nestedList n]

/-- Every list takes room of its own. -/
theorem fits_nestedList (path : List Nat) (calls n : Nat) :
    (nestedList n).fits path calls = true ↔ collectionCalls * (n + 1) ≤ calls := by
  induction n generalizing calls with
  | zero => simp [nestedList, Doc.fits, Doc.itemsFit]
  | succ n ih =>
    rw [nestedList, Doc.fits, Doc.itemsFit, Doc.itemsFit, Bool.and_true, Bool.and_eq_true,
      decide_eq_true_iff, ih, collectionCalls]
    omega

/-- Not every document is resolved, even if no target stands in the way: there is too little room
for lists that are nested too deep. -/
theorem not_forall_resolveDoc_eq :
    ¬ ∀ (r : Resolver) (d : Doc), r.Writes d → ¬ (r.strict = true ∧ r.Misses d) →
      r.resolveDoc (some .initial) d = .ok (d.mapTexts r.replaced) := by
  intro h
  have hwrites : (⟨[], [], false⟩ : Resolver).Writes (nestedList 600) :=
    (writable_of_nil rfl).writes _
  have hfits := (of_resolveDoc_eq_ok (h _ _ hwrites (by rintro ⟨⟨⟩, -⟩))).2.1 .initial rfl
  rw [fits_nestedList] at hfits
  exact absurd hfits (by decide)

end Resolver
end Template
end WorkflowKit
