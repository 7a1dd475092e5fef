/-
# What successful reading means

A decoder collects faults, so it succeeds exactly when all its parts do: two outcomes together
succeed when both do (`Checked.both_eq_ok`), a field that may be missing when it is missing or its
value is read (`maybe_read_eq_ok`), and a record when its fields are read and its keys are exactly
those by which they are given (`record_eq_ok`).
-/

import Mathlib.Data.List.Forall2
import WorkflowKit.Decode.Workflow

namespace WorkflowKit
namespace Decode

variable {α β γ : Type}

/-! ### Outcomes -/

namespace Checked

/-- A changed result comes from a result. -/
@[simp]
theorem map_eq_ok {f : α → β} {x : Checked α} {b : β} :
    f <$> x = .ok b ↔ ∃ a, x = .ok a ∧ f a = b := by
  cases x with
  | ok a => simp [Functor.map, Except.map]
  | error fs => simp [Functor.map, Except.map]

/-- Two outcomes succeed together exactly if each of them does. -/
@[simp]
theorem both_eq_ok {x : Checked α} {y : Checked β} {p : α × β} :
    both x y = .ok p ↔ x = .ok p.1 ∧ y = .ok p.2 := by
  obtain ⟨a, b⟩ := p
  cases x <;> cases y <;> simp [both]

/-- Saying where faults belong does not change what succeeds. -/
@[simp]
theorem under_eq_ok {step : Step} {x : Checked α} {a : α} : x.under step = .ok a ↔ x = .ok a := by
  cases x <;> simp [under]

@[simp]
theorem fail_ne_ok {kind : FaultKind} {a : α} : (fail kind : Checked α) ≠ .ok a := by
  simp [fail]

/-- Two steps succeed exactly if the second one does on what the first one gives. -/
@[simp]
theorem bind_eq_ok {x : Checked α} {f : α → Checked β} {b : β} :
    x >>= f = .ok b ↔ ∃ a, x = .ok a ∧ f a = .ok b := by
  cases x <;> simp [bind, Except.bind]

/-- Several outcomes succeed when each does. -/
theorem all_eq_ok {xs : List (Checked α)} {as : List α} :
    all xs = .ok as ↔ xs = as.map .ok := by
  induction xs generalizing as with
  | nil => cases as <;> simp [all]
  | cons x xs ih =>
    rw [all, map_eq_ok]
    constructor
    · rintro ⟨p, hp, rfl⟩
      rw [both_eq_ok, ih] at hp
      rw [hp.1, hp.2, List.map_cons]
    · intro h
      cases as with
      | nil => cases h
      | cons a as =>
        rw [List.map_cons, List.cons.injEq] at h
        exact ⟨(a, as), both_eq_ok.2 ⟨h.1, ih.2 h.2⟩, rfl⟩

end Checked

/-! ### Fields -/

namespace Fields

/-- Fields that are read and changed. -/
theorem map_read (f : α → β) (x : Fields α) (es : List (Scalar × Doc)) :
    (f <$> x).read es = f <$> x.read es := rfl

/-- Fields that are read one beside the other: the faults of both are collected. -/
theorem seq_read (f : Fields (α → β)) (x : Fields α) (es : List (Scalar × Doc)) :
    (f <*> x).read es = (fun p => p.1 p.2) <$> Checked.both (f.read es) (x.read es) := rfl

/-- A change of what is read changes no names. -/
theorem map_names (f : α → β) (x : Fields α) : (f <$> x).names = x.names := rfl

/-- Fields one beside the other have the names of both. -/
theorem seq_names (f : Fields (α → β)) (x : Fields α) :
    (f <*> x).names = f.names ++ x.names := rfl

/-- A field is read after others when both are read. -/
theorem seq_read_eq_ok {f : Fields (α → β)} {x : Fields α} {es : List (Scalar × Doc)} {b : β} :
    (f <*> x).read es = .ok b ↔
      ∃ g, f.read es = .ok g ∧ ∃ a, x.read es = .ok a ∧ g a = b := by
  rw [seq_read, Checked.map_eq_ok]
  constructor
  · rintro ⟨p, hp, rfl⟩
    rw [Checked.both_eq_ok] at hp
    exact ⟨p.1, hp.1, p.2, hp.2, rfl⟩
  · rintro ⟨g, hg, a, ha, rfl⟩
    exact ⟨(g, a), Checked.both_eq_ok.2 ⟨hg, ha⟩, rfl⟩

/-- Changed fields are read exactly if the fields are. -/
theorem map_read_eq_ok {f : α → β} {x : Fields α} {es : List (Scalar × Doc)} {b : β} :
    (f <$> x).read es = .ok b ↔ ∃ a, x.read es = .ok a ∧ f a = b := by
  rw [map_read, Checked.map_eq_ok]

end Fields

/-- A field with a default is read exactly if it is not given or its value can be read. -/
theorem withDefault_read_eq_ok {name : FieldName} {fallback a : α} {dec : Decoder α}
    {es : List (Scalar × Doc)} :
    (withDefault name fallback dec).read es = .ok a ↔
      (name.given? es = none ∧ a = fallback) ∨
        ∃ k d, name.given? es = some (k, d) ∧ dec d = .ok a := by
  simp only [withDefault]
  cases h : name.given? es with
  | none => simp [eq_comm]
  | some p => simp [Prod.ext_iff]

/-- A required field is read exactly if it is given and its value can be read. -/
theorem required_read_eq_ok {name : FieldName} {a : α} {dec : Decoder α}
    {es : List (Scalar × Doc)} :
    (required name dec).read es = .ok a ↔
      ∃ k d, name.given? es = some (k, d) ∧ dec d = .ok a := by
  simp only [required]
  cases h : name.given? es with
  | none => simp
  | some p => simp [Prod.ext_iff]

/-- Taking marks off a second time changes nothing. -/
theorem unmarked_unmarked : ∀ d : Doc, d.unmarked.unmarked = d.unmarked
  | .shared _ d => unmarked_unmarked d
  | .scalar _ | .list _ | .map _ | .set _ | .pairs _ => rfl

/-- An optional value is absent, or is read without its marks. -/
theorem optional_eq_ok {dec : Decoder α} {d : Doc} {o : Option α} :
    optional dec d = .ok o ↔
      (d.unmarked = .scalar .null ∧ o = none) ∨
        (d.unmarked ≠ .scalar .null ∧ ∃ a, dec d.unmarked = .ok a ∧ o = some a) := by
  rw [optional]
  split
  · next h => simp [h, eq_comm]
  · next h =>
    have h : d.unmarked ≠ .scalar .null := h
    simp only [Checked.map_eq_ok, h, false_and, ne_eq, not_false_eq_true, true_and, false_or,
      eq_comm (a := o)]

/-- A field that may be missing or absent. -/
theorem maybe_read_eq_ok {name : FieldName} {o : Option α} {dec : Decoder α}
    {es : List (Scalar × Doc)} :
    (maybe name dec).read es = .ok o ↔
      (name.given? es = none ∧ o = none) ∨
        ∃ k d, name.given? es = some (k, d) ∧
          ((d.unmarked = .scalar .null ∧ o = none) ∨
            (d.unmarked ≠ .scalar .null ∧ ∃ a, dec d.unmarked = .ok a ∧ o = some a)) := by
  simp only [maybe, withDefault_read_eq_ok, optional_eq_ok]

/-! ### Records and lists -/

/-- The names by which the fields of a record are given. -/
def usedNames (names : List FieldName) (es : List (Scalar × Doc)) : List Text :=
  names.filterMap fun f => (f.given? es).map fun p => .ofString p.1

/-- No key is left over exactly if each one is a text among those used. -/
theorem otherKeys_eq_nil {used : List Text} {es : List (Scalar × Doc)} :
    otherKeys used es = [] ↔ ∀ e ∈ es, ∃ t ∈ used, e.1 = .text t := by
  rw [otherKeys, List.filterMap_eq_nil_iff]
  refine forall₂_congr fun e _ => ?_
  rcases e with ⟨k, d⟩
  cases k <;> simp

/-- **A record is read when its fields are read and every key gives one of them.** -/
theorem ofEntries_eq_ok {fields : Fields α} {es : List (Scalar × Doc)} {a : α} :
    ofEntries fields es = .ok a ↔
      (∀ e ∈ es, isBrokenKey e.1 = false) ∧
        (∀ e ∈ es, ∃ t ∈ usedNames fields.names es, e.1 = .text t) ∧ fields.read es = .ok a := by
  rw [ofEntries]
  split
  · next h =>
    obtain ⟨e, he, hb⟩ := List.any_eq_true.1 h
    simp only [Checked.fail_ne_ok, false_iff, not_and]
    intro hk
    rw [hk e he] at hb
    cases hb
  · next h =>
    have hb : ∀ e ∈ es, isBrokenKey e.1 = false := by simpa using h
    rw [Checked.map_eq_ok, ← otherKeys_eq_nil]
    simp only [Checked.both_eq_ok, usedNames]
    constructor
    · rintro ⟨p, ⟨hread, hothers⟩, rfl⟩
      refine ⟨hb, ?_, hread⟩
      split at hothers
      · next heq => exact heq
      · cases hothers
    · rintro ⟨-, hothers, hread⟩
      exact ⟨(a, ()), ⟨hread, by rw [hothers]⟩, rfl⟩

/-- A record is read from a mapping alone. -/
theorem record_eq_ok {name : String} {fields : Fields α} {d : Doc} {a : α} :
    record name fields d = .ok a ↔ ∃ es, d.unmarked = .map es ∧ ofEntries fields es = .ok a := by
  rw [record]
  split
  · next es h => simp [h]
  · next h =>
    simp only [Checked.fail_ne_ok, false_iff, not_exists, not_and]
    exact fun es hes => absurd hes (h es)

/-- Items are read exactly if each of them is, in order. -/
theorem readItems_eq_ok {dec : Decoder α} {n : Nat} {ds : List Doc} {as : List α} :
    readItems dec n ds = .ok as ↔ List.Forall₂ (fun d a => dec d = .ok a) ds as := by
  induction ds generalizing n as with
  | nil => cases as <;> simp [readItems]
  | cons d ds ih =>
    rw [readItems, Checked.map_eq_ok]
    constructor
    · rintro ⟨p, hp, rfl⟩
      rw [Checked.both_eq_ok, Checked.under_eq_ok, ih] at hp
      exact .cons hp.1 hp.2
    · rintro (_ | ⟨h, hs⟩)
      exact ⟨(_, _), Checked.both_eq_ok.2 ⟨Checked.under_eq_ok.2 h, ih.2 hs⟩, rfl⟩

/-- A list is read exactly if it has items and each of them is read. -/
theorem list_eq_ok {dec : Decoder α} {d : Doc} {as : List α} :
    list dec d = .ok as ↔
      ∃ ds, items? d = some ds ∧ List.Forall₂ (fun d a => dec d = .ok a) ds as := by
  rw [list]
  cases h : items? d with
  | none => simp
  | some ds => simp [readItems_eq_ok]

/-- A mapping to texts is read key by key; of equal keys the last counts. -/
theorem texts_eq_ok {d : Doc} {m : TextMap} :
    texts d = .ok m ↔
      ∃ es qs, d.unmarked = .map es ∧
        List.Forall₂ (fun e q => plainText (.scalar e.1) = .ok q.1 ∧ text e.2 = .ok q.2) es qs ∧
          m = .ofEntries qs := by
  rw [texts]
  split
  · next es h =>
    rw [Checked.map_eq_ok, h]
    simp only [Checked.all_eq_ok, Doc.map.injEq]
    constructor
    · rintro ⟨qs, hqs, rfl⟩
      refine ⟨es, qs, rfl, ?_, rfl⟩
      rw [← List.forall₂_eq_eq_eq, List.forall₂_map_left_iff, List.forall₂_map_right_iff] at hqs
      exact hqs.imp fun e q h => by simpa using h
    · rintro ⟨_, qs, rfl, hqs, rfl⟩
      refine ⟨qs, ?_, rfl⟩
      rw [← List.forall₂_eq_eq_eq, List.forall₂_map_left_iff, List.forall₂_map_right_iff]
      exact hqs.imp fun e q h => by simpa using h
  · next h =>
    simp only [Checked.fail_ne_ok, false_iff, not_exists, not_and]
    exact fun es _ hes => absurd hes (h es)

/-- A record of several kinds is read by its kind. -/
theorem tagged_eq_ok {κ : Type} {text : κ → String} {all : List κ} {choose : κ → Decoder α}
    {d : Doc} {a : α} :
    tagged text all choose d = .ok a ↔
      ∃ es tag t k, d.unmarked = .map es ∧ Doc.field? "type" es = some tag ∧
        tag.unmarked = .scalar (.text t) ∧
          (all.find? fun k => Text.ofString (text k) == t) = some k ∧ choose k d = .ok a := by
  rw [tagged]
  split
  · next es h =>
    split
    · next h₁ => simp [h, h₁]
    · next tag h₁ =>
      simp only [h, Doc.map.injEq]
      split
      · next k hk =>
        rw [Checked.under_eq_ok]
        split at hk
        · next t ht =>
          constructor
          · exact fun hd => ⟨es, tag, t, k, rfl, h₁, ht, hk, hd⟩
          · rintro ⟨_, _, t', k', rfl, heq, ht', hk', hd⟩
            rw [h₁, Option.some.injEq] at heq
            subst heq
            rw [ht, Doc.scalar.injEq, Scalar.text.injEq] at ht'
            subst ht'
            rw [hk, Option.some.injEq] at hk'
            exact hk' ▸ hd
        · cases hk
      · next hk =>
        -- No kind has the text, so the right side can have found none with it.
        simp only [Checked.fail_ne_ok, false_iff, not_exists, not_and]
        rintro _ _ t k rfl heq ht hk' -
        rw [h₁, Option.some.injEq] at heq
        subst heq
        rw [ht] at hk
        simp only at hk
        rw [hk] at hk'
        cases hk'
  · next h =>
    simp only [Checked.fail_ne_ok, false_iff, not_exists, not_and]
    exact fun es _ _ _ hes => absurd hes (h es)

end Decode
end WorkflowKit
