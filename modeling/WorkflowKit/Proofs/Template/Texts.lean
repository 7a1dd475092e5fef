/-
# The texts of a document

Placeholders stand in the texts among the values of a document (`Doc.texts`).  What replaces them
changes these texts only (`Doc.mapTexts`): the document keeps its shape, which is to say its keys,
the lengths of its lists, and the kinds of its values (`Doc.sameShape_mapTexts`).

To get to the texts one goes down into the document, by calls in each other for which there may be
room or not (`Doc.FitsIn`).
-/

import Mathlib.Data.List.Forall2
import WorkflowKit.Template.Resolver

namespace WorkflowKit

/-- Two documents of one shape, with the same keys: they differ in their scalars at most. -/
inductive Doc.SameShape : Doc → Doc → Prop
  /-- Scalars. -/
  | scalar {s t : Scalar} : SameShape (.scalar s) (.scalar t)
  /-- Lists. -/
  | list {ds es : List Doc} (items : List.Forall₂ SameShape ds es) : SameShape (.list ds) (.list es)
  /-- Mappings. -/
  | map {es fs : List (Scalar × Doc)}
    (keys : es.map Prod.fst = fs.map Prod.fst)
    (values : List.Forall₂ SameShape (es.map Prod.snd) (fs.map Prod.snd)) :
    SameShape (.map es) (.map fs)
  /-- Sets. -/
  | set {ms : List Scalar} : SameShape (.set ms) (.set ms)
  /-- Lists of pairs. -/
  | pairs {ps : List (Doc × Doc)} : SameShape (.pairs ps) (.pairs ps)
  /-- Occurrences of a collection. -/
  | shared {id : Nat} {d e : Doc} (inside : SameShape d e) : SameShape (.shared id d) (.shared id e)

namespace Doc

mutual

/-- The texts among the values of a document.  Keys, sets and lists of pairs do not count. -/
def texts : Doc → List Text
  | scalar (.text s) => [s]
  | list items => textsOfItems items
  | map entries => textsOfEntries entries
  | shared _ d => d.texts
  | _ => []

/-- The texts among the values of items. -/
def textsOfItems : List Doc → List Text
  | [] => []
  | d :: ds => d.texts ++ textsOfItems ds

/-- The texts among the values of entries. -/
def textsOfEntries : List (Scalar × Doc) → List Text
  | [] => []
  | (_, d) :: es => d.texts ++ textsOfEntries es

end

mutual

/-- A document with the texts among its values changed. -/
def mapTexts (f : Text → Text) : Doc → Doc
  | scalar (.text s) => scalar (.text (f s))
  | list items => list (mapItems f items)
  | map entries => map (mapEntries f entries)
  | shared id d => shared id (d.mapTexts f)
  | d => d

/-- Items with the texts among their values changed. -/
def mapItems (f : Text → Text) : List Doc → List Doc
  | [] => []
  | d :: ds => d.mapTexts f :: mapItems f ds

/-- Entries with the texts among their values changed. -/
def mapEntries (f : Text → Text) : List (Scalar × Doc) → List (Scalar × Doc)
  | [] => []
  | (k, d) :: es => (k, d.mapTexts f) :: mapEntries f es

end

mutual

/-- A document stays as it is if its texts do. -/
theorem mapTexts_eq_self {f : Text → Text} (d : Doc) (h : ∀ s ∈ d.texts, f s = s) :
    d.mapTexts f = d := by
  match d with
  | scalar (.text s) => rw [mapTexts, h s (List.mem_singleton_self s)]
  | list ds => rw [mapTexts, mapItems_eq_self ds h]
  | map es => rw [mapTexts, mapEntries_eq_self es h]
  | shared id d => rw [mapTexts, mapTexts_eq_self d h]
  | scalar .null | scalar (.bool _) | scalar (.int _) | scalar (.float _) | scalar (.bytes _)
  | scalar (.date _) | scalar (.instant _) | set _ | pairs _ => rfl

/-- The same for the items of a list. -/
theorem mapItems_eq_self {f : Text → Text} (ds : List Doc) (h : ∀ s ∈ textsOfItems ds, f s = s) :
    mapItems f ds = ds := by
  match ds with
  | [] => rfl
  | d :: ds =>
    rw [mapItems, mapTexts_eq_self d fun s hs => h s (List.mem_append_left _ hs),
      mapItems_eq_self ds fun s hs => h s (List.mem_append_right _ hs)]

/-- The same for the entries of a mapping. -/
theorem mapEntries_eq_self {f : Text → Text} (es : List (Scalar × Doc))
    (h : ∀ s ∈ textsOfEntries es, f s = s) : mapEntries f es = es := by
  match es with
  | [] => rfl
  | (k, d) :: es =>
    rw [mapEntries, mapTexts_eq_self d fun s hs => h s (List.mem_append_left _ hs),
      mapEntries_eq_self es fun s hs => h s (List.mem_append_right _ hs)]

end

/-! ### Shape -/

/-- Documents of one shape have one shape without the marks around them. -/
theorem SameShape.unmarked : ∀ {d e : Doc}, SameShape d e → SameShape d.unmarked e.unmarked
  | _, _, .shared inside => inside.unmarked
  | _, _, .scalar => .scalar
  | _, _, .list items => .list items
  | _, _, .map keys values => .map keys values
  | _, _, .set => .set
  | _, _, .pairs => .pairs

/-- Documents with the same keys and values of the same shapes have values of one shape under a key,
or none. -/
theorem SameShape.field? (key : Text) {es fs : List (Scalar × Doc)}
    (keys : es.map Prod.fst = fs.map Prod.fst)
    (values : List.Forall₂ SameShape (es.map Prod.snd) (fs.map Prod.snd)) :
    Option.Rel SameShape (field? key es) (field? key fs) := by
  induction es generalizing fs with
  | nil =>
    rw [List.map_eq_nil_iff.1 keys.symm]
    exact .none
  | cons e es ih =>
    obtain ⟨k, d⟩ := e
    cases fs with
    | nil => cases keys
    | cons f fs =>
      obtain ⟨l, e⟩ := f
      obtain ⟨hkey, hkeys⟩ := List.cons.inj keys
      subst hkey
      cases values with
      | cons value values =>
        have hrest := ih hkeys values
        simp only [Doc.field?, List.find?_cons] at hrest ⊢
        split
        · exact .some value
        · exact hrest


mutual

/-- **Changing the texts of a document leaves its shape as it is**: its keys, the lengths of its
lists, and everything among its values that is no text. -/
theorem sameShape_mapTexts (f : Text → Text) (d : Doc) : SameShape d (d.mapTexts f) := by
  match d with
  | scalar (.text s) => exact .scalar
  | list ds => exact .list (sameShape_mapItems f ds)
  | map es => exact .map (keys_mapEntries f es) (sameShape_mapEntries f es)
  | shared id d => exact .shared (sameShape_mapTexts f d)
  | scalar .null | scalar (.bool _) | scalar (.int _) | scalar (.float _) | scalar (.bytes _)
  | scalar (.date _) | scalar (.instant _) => exact .scalar
  | set _ => exact .set
  | pairs _ => exact .pairs

/-- Items keep their number and their shapes. -/
theorem sameShape_mapItems (f : Text → Text) (ds : List Doc) :
    List.Forall₂ SameShape ds (mapItems f ds) := by
  match ds with
  | [] => exact .nil
  | d :: ds => exact .cons (sameShape_mapTexts f d) (sameShape_mapItems f ds)

/-- Keys are not texts among the values, so they stay. -/
theorem keys_mapEntries (f : Text → Text) (es : List (Scalar × Doc)) :
    es.map Prod.fst = (mapEntries f es).map Prod.fst := by
  match es with
  | [] => rfl
  | (k, _) :: es => exact congrArg (k :: ·) (keys_mapEntries f es)

/-- Entries keep their number and the shapes of their values. -/
theorem sameShape_mapEntries (f : Text → Text) (es : List (Scalar × Doc)) :
    List.Forall₂ SameShape (es.map Prod.snd) ((mapEntries f es).map Prod.snd) := by
  match es with
  | [] => exact .nil
  | (_, d) :: es => exact .cons (sameShape_mapTexts f d) (sameShape_mapEntries f es)

end

/-! ### Room -/

open Template (Room collectionCalls pairsCalls textCalls)

mutual

/-- Whether `n` calls in each other are enough to go through a document, in which none of the
collections of `path` occurs, and no collection inside itself. -/
def fits (path : List Nat) (n : Nat) : Doc → Bool
  | scalar (.text s) => textCalls s ≤ n
  | list items => collectionCalls ≤ n && itemsFit path (n - collectionCalls) items
  | map entries => collectionCalls ≤ n && entriesFit path (n - collectionCalls) entries
  | shared id d => !path.contains id && d.fits (id :: path) n
  | pairs items => pairsCalls items ≤ n
  | _ => 1 ≤ n

/-- Whether `n` calls in each other are enough to go through each of some items. -/
def itemsFit (path : List Nat) (n : Nat) : List Doc → Bool
  | [] => true
  | d :: ds => d.fits path n && itemsFit path n ds

/-- Whether `n` calls in each other are enough to go through each value of some entries. -/
def entriesFit (path : List Nat) (n : Nat) : List (Scalar × Doc) → Bool
  | [] => true
  | (_, d) :: es => d.fits path n && entriesFit path n es

end

/-- There is enough room to go through a document; without a bound there always is. -/
def FitsIn (room : Option Room) (d : Doc) : Prop := ∀ q ∈ room, d.fits q.path q.calls = true

/-- There is enough room to go through each of some items. -/
def ItemsFitIn (room : Option Room) (ds : List Doc) : Prop :=
  ∀ q ∈ room, itemsFit q.path q.calls ds = true

/-- There is enough room to go through each value of some entries. -/
def EntriesFitIn (room : Option Room) (es : List (Scalar × Doc)) : Prop :=
  ∀ q ∈ room, entriesFit q.path q.calls es = true

/-- Without a bound any document fits. -/
@[simp]
theorem fitsIn_none (d : Doc) : d.FitsIn none := fun _ hq => nomatch hq

/-- There is room for some items exactly if there is for each of them: one is left before the next
is entered. -/
theorem itemsFitIn_cons {room : Option Room} {d : Doc} {ds : List Doc} :
    ItemsFitIn room (d :: ds) ↔ d.FitsIn room ∧ ItemsFitIn room ds := by
  simp only [ItemsFitIn, FitsIn, itemsFit, Bool.and_eq_true, forall_and]

/-- There is room for some entries exactly if there is for the value of each of them. -/
theorem entriesFitIn_cons {room : Option Room} {k : Scalar} {d : Doc} {es : List (Scalar × Doc)} :
    EntriesFitIn room ((k, d) :: es) ↔ d.FitsIn room ∧ EntriesFitIn room es := by
  simp only [EntriesFitIn, FitsIn, entriesFit, Bool.and_eq_true, forall_and]

/-- Room for a list is room for the calls to go into it and, inside of these, for its items. -/
theorem fitsIn_list {room : Option Room} {ds : List Doc} :
    (list ds).FitsIn room ↔ (∀ q ∈ room, collectionCalls ≤ q.calls) ∧
      ItemsFitIn (room.map fun q => { q with calls := q.calls - collectionCalls }) ds := by
  cases room <;> simp [FitsIn, ItemsFitIn, fits]

/-- Room for a mapping is room for the calls to go into it and, inside of these, for its values. -/
theorem fitsIn_map {room : Option Room} {es : List (Scalar × Doc)} :
    (map es).FitsIn room ↔ (∀ q ∈ room, collectionCalls ≤ q.calls) ∧
      EntriesFitIn (room.map fun q => { q with calls := q.calls - collectionCalls }) es := by
  cases room <;> simp [FitsIn, EntriesFitIn, fits]

/-- Room for an occurrence of a collection is room for the collection, which must not occur in
itself. -/
theorem fitsIn_shared {room : Option Room} {id : Nat} {d : Doc} :
    (shared id d).FitsIn room ↔ (∀ q ∈ room, id ∉ q.path) ∧
      d.FitsIn (room.map fun q => { q with path := id :: q.path }) := by
  cases room <;> simp [FitsIn, fits]

end Doc

namespace Value

mutual

/-- A value with its texts changed. -/
def mapTexts (f : Text → Text) : Value → Value
  | text s => text (f s)
  | list items => list (mapItems f items)
  | map entries => map (mapEntries f entries)
  | v => v

/-- Items with their texts changed. -/
def mapItems (f : Text → Text) : List Value → List Value
  | [] => []
  | v :: vs => v.mapTexts f :: mapItems f vs

/-- Entries with the texts of their values changed. -/
def mapEntries (f : Text → Text) : List (Text × Value) → List (Text × Value)
  | [] => []
  | (k, v) :: es => (k, v.mapTexts f) :: mapEntries f es

end

/-- The keys stay. -/
theorem keys_mapEntries (f : Text → Text) (es : List (Text × Value)) :
    (mapEntries f es).map Prod.fst = es.map Prod.fst := by
  match es with
  | [] => rfl
  | (k, _) :: es => exact congrArg (k :: ·) (keys_mapEntries f es)

mutual

/-- The texts of a plain value may be changed before or after it is taken for a document. -/
theorem toDoc_mapTexts (f : Text → Text) (v : Value) :
    (v.mapTexts f).toDoc = v.toDoc.mapTexts f := by
  match v with
  | text s => rfl
  | list vs => exact congrArg Doc.list (toDoc_mapItems f vs)
  | map es => exact congrArg Doc.map (toDoc_mapEntries f es)
  | null | bool _ | int _ | float _ => rfl

/-- The same for the items of a list. -/
theorem toDoc_mapItems (f : Text → Text) (vs : List Value) :
    itemsToDoc (mapItems f vs) = Doc.mapItems f (itemsToDoc vs) := by
  match vs with
  | [] => rfl
  | v :: vs =>
    rw [mapItems, itemsToDoc, toDoc_mapTexts f v, toDoc_mapItems f vs, itemsToDoc, Doc.mapItems]

/-- The same for the entries of a mapping. -/
theorem toDoc_mapEntries (f : Text → Text) (es : List (Text × Value)) :
    entriesToDoc (mapEntries f es) = Doc.mapEntries f (entriesToDoc es) := by
  match es with
  | [] => rfl
  | (k, v) :: es =>
    rw [mapEntries, entriesToDoc, toDoc_mapTexts f v, toDoc_mapEntries f es, entriesToDoc,
      Doc.mapEntries]

end

end Value
end WorkflowKit
