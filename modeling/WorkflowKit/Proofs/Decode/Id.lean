/-
# Extension ids that are collections

Decoding a workflow reports faults, unless it comes to an extension record whose id is a collection
(`workflow_yields`).  Whether a document has such a record is seen before its placeholders are
replaced (`PlainIds.of_sameShape`).
-/

import WorkflowKit.Decode.Workflow
import WorkflowKit.Proofs.Outcome
import WorkflowKit.Proofs.Template.Texts

namespace WorkflowKit
namespace Decode

open Doc (SameShape)

/-- No extension record in the entries of a workflow has a collection as its id. -/
def PlainIds (es : List (Scalar × Doc)) : Prop :=
  ∀ x ∈ Doc.field? "extensions" es, ∀ ds, x.unmarked = .list ds →
    ∀ d ∈ ds, ∀ fs, d.unmarked = .map fs → ∃ s, (givenId fs).unmarked = .scalar s

/-- The refusal of a document with faults. -/
def Refusal.IsFaults (f : Refusal) : Prop := ∃ fs, f = .faults fs

variable {r : Option ExtensionRegistry} {d e : Doc} {es fs : List (Scalar × Doc)}

theorem shapeFor?_yields {s : Scalar} (h : d.unmarked = .scalar s) :
    Yields Refusal.IsFaults (fun _ => True) (shapeFor? r d) := by
  cases r with
  | none => trivial
  | some r =>
    rw [shapeFor?, collectionKind?, h]
    dsimp only
    split <;> trivial

theorem faults_yields {α : Type} {x : Except (List Fault) α} :
    Yields Refusal.IsFaults (fun _ => True) (x.mapError .faults) := by
  cases x with
  | ok a => trivial
  | error fs => exact ⟨fs, rfl⟩

theorem extension_yields
    (h : ∀ fs, d.unmarked = .map fs → ∃ s, (givenId fs).unmarked = .scalar s) :
    Yields Refusal.IsFaults (fun _ => True) (extension r d) := by
  unfold extension
  split
  · next fs hfs =>
    obtain ⟨s, hs⟩ := h fs hfs
    refine (shapeFor?_yields hs).bind fun shape _ => ?_
    split
    · exact ⟨_, rfl⟩
    · exact faults_yields
  · exact ⟨_, rfl⟩

theorem collectionId?_eq_none (h : PlainIds es) : collectionId? r es = none := by
  unfold collectionId?
  split
  · rfl
  · next x hx =>
    have hlist : Yields Refusal.IsFaults (fun _ => True) (extensionList r x) := by
      unfold extensionList
      split
      · next ds hds =>
        have hitems := Yields.mapM fun d hd => extension_yields (r := r) (h x hx ds hds d hd)
        exact hitems.mono fun _ _ => trivial
      · exact .ite trivial ⟨_, rfl⟩
      · exact faults_yields
    split
    · next kind hkind =>
      obtain ⟨fs, hfs⟩ := hlist.error_of hkind
      cases hfs
    · rfl

/-- A document whose extension ids are no collections is a workflow, or has faults. -/
theorem workflow_yields (h : ∀ es, d.unmarked = .map es → PlainIds es) :
    Yields Refusal.IsFaults (fun _ => True) (workflow r d) := by
  unfold workflow
  split
  · next es hes =>
    rw [collectionId?_eq_none (h es hes)]
    exact faults_yields
  · exact ⟨_, rfl⟩

/-! ### Documents of one shape -/

theorem sameShape_scalar {s : Scalar} (h : SameShape d e) (hd : d.unmarked = .scalar s) :
    ∃ t, e.unmarked = .scalar t := by
  have hshape := h.unmarked
  rw [hd] at hshape
  generalize e.unmarked = u at hshape
  cases hshape
  exact ⟨_, rfl⟩

theorem sameShape_list {qs : List Doc} (h : SameShape d e) (he : e.unmarked = .list qs) :
    ∃ ps, d.unmarked = .list ps ∧ List.Forall₂ SameShape ps qs := by
  have hshape := h.unmarked
  rw [he] at hshape
  generalize d.unmarked = u at hshape
  cases hshape with
  | list items => exact ⟨_, rfl, items⟩

theorem exists_sameShape {ps qs : List Doc} (h : List.Forall₂ SameShape ps qs) (he : e ∈ qs) :
    ∃ d ∈ ps, SameShape d e := by
  induction h with
  | nil => cases he
  | cons hpq _ ih =>
    rcases List.mem_cons.1 he with rfl | he
    · exact ⟨_, List.mem_cons_self, hpq⟩
    · obtain ⟨d, hd, hde⟩ := ih he
      exact ⟨d, List.mem_cons_of_mem _ hd, hde⟩

theorem sameShape_map (h : SameShape d e) (he : e.unmarked = .map fs) :
    ∃ es, d.unmarked = .map es ∧ es.map Prod.fst = fs.map Prod.fst ∧
      List.Forall₂ SameShape (es.map Prod.snd) (fs.map Prod.snd) := by
  have hshape := h.unmarked
  rw [he] at hshape
  generalize d.unmarked = u at hshape
  cases hshape with
  | map keys values => exact ⟨_, rfl, keys, values⟩

theorem givenId_sameShape (keys : es.map Prod.fst = fs.map Prod.fst)
    (values : List.Forall₂ SameShape (es.map Prod.snd) (fs.map Prod.snd)) :
    SameShape (givenId es) (givenId fs) := by
  have hkey := SameShape.field? extensionId.key keys values
  have hsecond := SameShape.field? extensionId.second keys values
  rw [givenId, givenId, FieldName.given?, FieldName.given?]
  generalize Doc.field? extensionId.key es = a, Doc.field? extensionId.key fs = b at hkey ⊢
  generalize Doc.field? extensionId.second es = a', Doc.field? extensionId.second fs = b'
    at hsecond ⊢
  cases hkey with
  | some h => exact h
  | none =>
    cases hsecond with
    | some h => exact h
    | none => exact .scalar

/-- The records of a document have no collections as their ids if those of a document of the same
shape have none. -/
theorem PlainIds.of_sameShape (keys : es.map Prod.fst = fs.map Prod.fst)
    (values : List.Forall₂ SameShape (es.map Prod.snd) (fs.map Prod.snd)) (h : PlainIds es) :
    PlainIds fs := by
  intro y hy qs hqs e he gs hgs
  have hfield := SameShape.field? "extensions" keys values
  rw [Option.mem_def.1 hy] at hfield
  generalize hx : Doc.field? "extensions" es = x at hfield
  cases hfield with
  | some hxy =>
    obtain ⟨ps, hps, hitems⟩ := sameShape_list hxy hqs
    obtain ⟨d, hd, hde⟩ := exists_sameShape hitems he
    obtain ⟨es', hes', hkeys, hvalues⟩ := sameShape_map hde hgs
    obtain ⟨s, hs⟩ := h _ hx ps hps d hd es' hes'
    exact sameShape_scalar (givenId_sameShape hkeys hvalues) hs

end Decode
end WorkflowKit
