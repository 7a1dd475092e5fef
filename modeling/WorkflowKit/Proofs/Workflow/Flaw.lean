/-
# Workflows without flaws

What it means for a workflow to make sense (`Workflow.IsSound`), said without the search for flaws,
and that the search finds nothing exactly then (`Workflow.flaws_eq_nil`).

The search goes through the named things with the names that it has seen, blank ones among them.
These never matter: a blank name is a flaw by itself, so a list without flaws has none
(`Flaw.ofNamed_eq_nil`).
-/

import Mathlib.Data.List.Nodup
import WorkflowKit.Workflow.Flaw

namespace WorkflowKit

/-- A text that may be missing is blank if it is missing, empty, or consists of blanks. -/
def IsBlank (s : Option Text) : Prop :=
  ∀ t ∈ s, ∀ p ∈ t.points, ∃ c, p = .char c ∧ Text.isBlank c = true

/-- A workflow that makes sense; `strict` says whether its ends count. -/
structure Workflow.IsSound (w : Workflow) (strict : Bool) : Prop where
  /-- It has a name. -/
  named : ¬ IsBlank w.name
  /-- It has states. -/
  states : w.states ≠ []
  /-- Every state has a name. -/
  stateNamed : ∀ s ∈ w.states, ¬ IsBlank s.name
  /-- No two states have the same name. -/
  stateNames : (w.states.map State.name).Nodup
  /-- It starts with exactly one state. -/
  start : w.states.countP State.isStart = 1
  /-- An operation says which state follows. -/
  operations : ∀ h mode as next f, .operation h mode as next f ∈ w.states → ¬ IsBlank next
  /-- So does a parallel state. -/
  parallels : ∀ h bs next, .parallel h bs next ∈ w.states → ¬ IsBlank next
  /-- So does a delay. -/
  delays : ∀ h seconds next, .delay h seconds next ∈ w.states → ¬ IsBlank next
  /-- A switch has a fallback. -/
  switches : ∀ h cs fallback, .switch h cs fallback ∈ w.states → ¬ IsBlank fallback
  /-- If the ends count, there is exactly one. -/
  finish : strict = true → w.states.countP (fun s => s.kind == .finish) = 1
  /-- Every trigger has a name. -/
  triggerNamed : ∀ t ∈ w.triggers, ¬ IsBlank t.name
  /-- No two triggers have the same name. -/
  triggerNames : (w.triggers.map Trigger.name).Nodup
  /-- Every trigger says what tells its events apart. -/
  triggerTokens : ∀ t ∈ w.triggers, ¬ IsBlank t.correlationToken

theorem Text.isAllBlank_iff (t : Text) :
    t.isAllBlank = true ↔ ∀ p ∈ t.points, ∃ c, p = .char c ∧ isBlank c = true := by
  rw [isAllBlank, List.all_eq_true]
  refine forall₂_congr fun p _ => ?_
  cases p <;> simp [CodePoint.isCharWith]

namespace Flaw

theorem isBlank_iff (s : Option Text) : isBlank s = true ↔ IsBlank s := by
  cases s with
  | none => simp [isBlank, IsBlank]
  | some t => simp [isBlank, IsBlank, Text.isAllBlank_iff]

theorem ofBlank_eq_nil {flaw : Flaw} {s : Option Text} : ofBlank flaw s = [] ↔ ¬ IsBlank s := by
  rw [ofBlank, ← isBlank_iff]
  split <;> simp_all

theorem ofCount_eq_nil {none many : Flaw} {n : Nat} : ofCount none many n = [] ↔ n = 1 := by
  match n with
  | 0 | 1 | _ + 2 => simp [ofCount]

section Named

variable {α : Type} {name : α → Option Text} {unnamed : Flaw} {repeated : Text → Flaw}
  {further : α → List Flaw} {seen : List Text}

theorem ofName_eq_nil {s : Option Text} :
    ofName unnamed repeated seen s = [] ↔ ¬ IsBlank s ∧ ∀ t ∈ s, t ∉ seen := by
  rw [← isBlank_iff]
  cases s with
  | none => simp [ofName, isBlank]
  | some t =>
    rw [ofName, isBlank]
    split
    · simp [*]
    · split <;> simp_all

/-- **Named things without flaws.**  All of them have names, which differ from each other and from
those seen before, and nothing further is wrong with them. -/
theorem ofNamed_eq_nil {as : List α} :
    ofNamed name unnamed repeated further seen as = [] ↔
      (∀ a ∈ as, ¬ IsBlank (name a) ∧ (∀ t ∈ name a, t ∉ seen) ∧ further a = []) ∧
        (as.map name).Nodup := by
  induction as generalizing seen with
  | nil => simp [ofNamed]
  | cons a as ih =>
    rw [ofNamed, List.append_eq_nil_iff, List.append_eq_nil_iff, ofName_eq_nil, ih,
      List.forall_mem_cons, List.map_cons, List.nodup_cons]
    constructor
    · rintro ⟨⟨⟨hblank, hseen⟩, hfurther⟩, has, hnodup⟩
      refine ⟨⟨⟨hblank, hseen, hfurther⟩, fun b hb => ?_⟩, fun hmem => ?_, hnodup⟩
      · obtain ⟨hblank, hseen, hfurther⟩ := has b hb
        exact ⟨hblank, fun t ht hmem => hseen t ht (List.mem_append_right _ hmem), hfurther⟩
      · obtain ⟨b, hb, heq⟩ := List.mem_map.1 hmem
        obtain ⟨t, ht⟩ : ∃ t, name a = some t := by
          by_contra hnone
          exact hblank fun t ht => absurd ⟨t, ht⟩ hnone
        exact (has b hb).2.1 t (heq.trans ht) (by simp [ht])
    · rintro ⟨⟨⟨hblank, hseen, hfurther⟩, has⟩, hnotMem, hnodup⟩
      refine ⟨⟨⟨hblank, hseen⟩, hfurther⟩, fun b hb => ?_, hnodup⟩
      obtain ⟨hblank, hseen, hfurther⟩ := has b hb
      refine ⟨hblank, fun t ht hmem => ?_, hfurther⟩
      rcases List.mem_append.1 hmem with hmem | hmem
      · have heq : name b = name a := ht.trans (Option.mem_toList.1 hmem).symm
        exact hnotMem (heq ▸ List.mem_map_of_mem hb)
      · exact hseen t ht hmem

end Named

/-- A state leads where its kind has to lead. -/
theorem ofTarget_eq_nil {s : State} :
    ofTarget s = [] ↔
      (∀ h mode as next f, s = .operation h mode as next f → ¬ IsBlank next) ∧
        (∀ h bs next, s = .parallel h bs next → ¬ IsBlank next) ∧
          (∀ h seconds next, s = .delay h seconds next → ¬ IsBlank next) ∧
            ∀ h cs fallback, s = .switch h cs fallback → ¬ IsBlank fallback := by
  cases s with
  | operation h mode as next f =>
    rw [ofTarget, ofBlank_eq_nil]
    refine ⟨fun hnext => ⟨?_, by simp, by simp, by simp⟩, fun h => h.1 _ _ _ _ _ rfl⟩
    rintro _ _ _ _ _ ⟨⟩
    exact hnext
  | _ => simp [ofTarget, ofBlank_eq_nil]

end Flaw

/-- **A workflow has no flaws exactly if it makes sense.** -/
theorem Workflow.flaws_eq_nil {w : Workflow} {strict : Bool} :
    w.flaws strict = [] ↔ w.IsSound strict := by
  have hfinishes : (if strict then Flaw.ofFinishes w.states else []) = [] ↔
      (strict = true → w.states.countP (fun s => s.kind == .finish) = 1) := by
    cases strict <;> simp [Flaw.ofFinishes, Flaw.ofCount_eq_nil]
  have hstates : (if w.states.isEmpty then [Flaw.noStates] else []) = [] ↔ w.states ≠ [] := by
    cases w.states <;> simp
  -- The list of flaws is the concatenation of the checks, so it is empty if each of them is.
  rw [flaws, List.append_eq_nil_iff, List.append_eq_nil_iff, List.append_eq_nil_iff,
    List.append_eq_nil_iff, Flaw.ofBlank_eq_nil, hstates, hfinishes, Flaw.ofStates,
    List.append_eq_nil_iff, Flaw.ofNamed_eq_nil, Flaw.ofCount_eq_nil, Flaw.ofTriggers,
    Flaw.ofNamed_eq_nil]
  constructor
  · rintro ⟨⟨⟨⟨hname, hne⟩, ⟨hall, hnodup⟩, hstart⟩, hfinish⟩, htriggers, hnames⟩
    have htargets := fun s hs => Flaw.ofTarget_eq_nil.1 (hall s hs).2.2
    exact {
      named := hname
      states := hne
      stateNamed := fun s hs => (hall s hs).1
      stateNames := hnodup
      start := hstart
      operations := fun h mode as next f hs => (htargets _ hs).1 h mode as next f rfl
      parallels := fun h bs next hs => (htargets _ hs).2.1 h bs next rfl
      delays := fun h seconds next hs => (htargets _ hs).2.2.1 h seconds next rfl
      switches := fun h cs fallback hs => (htargets _ hs).2.2.2 h cs fallback rfl
      finish := hfinish
      triggerNamed := fun t ht => (htriggers t ht).1
      triggerNames := hnames
      triggerTokens := fun t ht => Flaw.ofBlank_eq_nil.1 (htriggers t ht).2.2 }
  · intro h
    refine ⟨⟨⟨⟨h.named, h.states⟩, ⟨fun s hs => ⟨h.stateNamed s hs, by simp, ?_⟩, h.stateNames⟩,
      h.start⟩, h.finish⟩, fun t ht => ⟨h.triggerNamed t ht, by simp, ?_⟩, h.triggerNames⟩
    · refine Flaw.ofTarget_eq_nil.2 ⟨?_, ?_, ?_, ?_⟩
      · rintro head mode as next f rfl
        exact h.operations head mode as next f hs
      · rintro head bs next rfl
        exact h.parallels head bs next hs
      · rintro head seconds next rfl
        exact h.delays head seconds next hs
      · rintro head cs fallback rfl
        exact h.switches head cs fallback hs
    · exact Flaw.ofBlank_eq_nil.2 (h.triggerTokens t ht)

end WorkflowKit
