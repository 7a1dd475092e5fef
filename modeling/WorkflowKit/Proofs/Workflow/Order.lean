/-
# Flaws in another order

If the states and the triggers of a workflow are put into another order, other things of one name
are the later ones and other things are found to repeat a name, but the flaws are the same, each as
often as before (`Workflow.flaws_perm`).

The search for flaws carries the names that it has seen from one thing to the next.  Only which
names these are matters, not their order (`Flaw.ofNamed_congr`), and two things side by side may
change places (`Flaw.ofName_swap`).  From the count of each name follows how often it is found to be
repeated: once less than it occurs (`Workflow.count_repeatedState`).

That a flaw is told from its wording is `Flaw.message_injective`.
-/

import WorkflowKit.Proofs.Workflow.Flaw

namespace WorkflowKit
namespace Flaw

/-! ### Wordings -/

/-- A flaw of each kind: names are replaced by the empty name. -/
def nameless : Flaw → Flaw
  | repeatedState _ => repeatedState ⟨[]⟩
  | repeatedTrigger _ => repeatedTrigger ⟨[]⟩
  | f => f

/-- The flaws of each kind. -/
def kinds : List Flaw :=
  [unnamedWorkflow, noStates, unnamedState, repeatedState ⟨[]⟩, noNextState, noFallback, noStart,
    manyStarts, noFinish, manyFinishes, unnamedTrigger, repeatedTrigger ⟨[]⟩, noCorrelationToken]

theorem nameless_mem_kinds (f : Flaw) : f.nameless ∈ kinds := by
  cases f <;> simp [nameless, kinds]

/-- How a wording begins tells the kind. -/
theorem take_message (f : Flaw) :
    f.message.points.take 22 = f.nameless.message.points.take 22 := by
  cases f with
  | repeatedState s =>
    show ((Text.ofString _).points ++ s.points).take 22 = ((Text.ofString _).points ++ []).take 22
    rw [List.take_append_of_le_length (by decide), List.take_append_of_le_length (by decide)]
  | repeatedTrigger s =>
    show ((Text.ofString _).points ++ s.points).take 22 = ((Text.ofString _).points ++ []).take 22
    rw [List.take_append_of_le_length (by decide), List.take_append_of_le_length (by decide)]
  | _ => rfl

theorem eq_of_take_message :
    ∀ f ∈ kinds, ∀ g ∈ kinds, f.message.points.take 22 = g.message.points.take 22 → f = g := by
  decide +kernel

/-- **Different flaws have different wordings.** -/
theorem message_injective : Function.Injective message := by
  intro f g h
  have hkind : f.nameless = g.nameless :=
    eq_of_take_message _ f.nameless_mem_kinds _ g.nameless_mem_kinds
      (by rw [← take_message, ← take_message, h])
  have hname {p s t : Text} (h : p ++ s = p ++ t) : s = t := by
    cases s
    cases t
    exact congrArg Text.mk (List.append_cancel_left (congrArg Text.points h))
  cases f with
  | repeatedState s =>
    cases g <;> cases hkind
    rw [hname h]
  | repeatedTrigger s =>
    cases g <;> cases hkind
    rw [hname h]
  | _ => cases g <;> first | rfl | cases hkind

/-! ### Named things -/

section Named

variable {α : Type} {name : α → Option Text} {unnamed : Flaw} {repeated : Text → Flaw}
  {further : α → List Flaw} {seen seen' : List Text} {as bs : List α}

theorem ofName_congr {s : Option Text} (h : ∀ t ∈ s, t ∈ seen ↔ t ∈ seen') :
    ofName unnamed repeated seen s = ofName unnamed repeated seen' s := by
  cases s with
  | none => rfl
  | some t => simp [ofName, h t rfl]

/-- Which names have been seen matters, not their order. -/
theorem ofNamed_congr (h : ∀ t, t ∈ seen ↔ t ∈ seen') :
    ofNamed name unnamed repeated further seen as =
      ofNamed name unnamed repeated further seen' as := by
  induction as generalizing seen seen' with
  | nil => rfl
  | cons a as ih =>
    have hseen (t : Text) : t ∈ (name a).toList ++ seen ↔ t ∈ (name a).toList ++ seen' := by
      simp [h t]
    rw [ofNamed, ofNamed, ofName_congr fun t _ => h t, ih hseen]

variable (unnamed repeated seen) in
/-- Two names may change places: if they differ, neither matters for the other. -/
theorem ofName_swap (s t : Option Text) :
    (ofName unnamed repeated seen s ++ ofName unnamed repeated (s.toList ++ seen) t).Perm
      (ofName unnamed repeated seen t ++ ofName unnamed repeated (t.toList ++ seen) s) := by
  by_cases heq : s = t
  · rw [heq]
  · have hother {s t : Option Text} (hne : s ≠ t) :
        ofName unnamed repeated (s.toList ++ seen) t = ofName unnamed repeated seen t := by
      refine ofName_congr fun u hu => ?_
      have hnot : s ≠ some u := fun hs => hne (hs.trans hu.symm)
      simp [hnot]
    rw [hother heq, hother (Ne.symm heq)]
    exact List.perm_append_comm

/-- **The flaws of named things are the same in any order.** -/
theorem ofNamed_perm (h : as.Perm bs) :
    (ofNamed name unnamed repeated further seen as).Perm
      (ofNamed name unnamed repeated further seen bs) := by
  induction h generalizing seen with
  | nil => exact .nil
  | cons a _ ih => exact ih.append_left _
  | swap a b as =>
    have hseen (t : Text) : t ∈ (name a).toList ++ ((name b).toList ++ seen) ↔
        t ∈ (name b).toList ++ ((name a).toList ++ seen) := by
      simp only [List.mem_append]
      exact or_left_comm
    rw [ofNamed, ofNamed, ofNamed, ofNamed, ofNamed_congr hseen, List.perm_iff_count]
    intro f
    have hcount := (ofName_swap unnamed repeated seen (name b) (name a)).count_eq f
    simp only [List.count_append] at hcount ⊢
    omega
  | trans _ _ ih ih' => exact ih.trans ih'

theorem count_ofName (hinj : Function.Injective repeated) {n : Text}
    (hn : Text.isAllBlank n = false) (hunnamed : unnamed ≠ repeated n) (s : Option Text) :
    (ofName unnamed repeated seen s).count (repeated n) =
      if s = some n ∧ n ∈ seen then 1 else 0 := by
  cases s with
  | none => simp [ofName, hunnamed]
  | some t =>
    by_cases ht : t = n
    · subst ht
      by_cases hseen : t ∈ seen <;> simp [ofName, hn, hseen]
    · have hother : repeated t ≠ repeated n := fun h => ht (hinj h)
      rw [ofName]
      split
      · simp [hunnamed, ht]
      · split <;> simp [hother, ht]

/-- How often a name is found to be repeated: each time that it occurs, but for the first. -/
theorem count_ofNamed (hinj : Function.Injective repeated) {n : Text}
    (hn : Text.isAllBlank n = false) (hunnamed : unnamed ≠ repeated n)
    (hfurther : ∀ a ∈ as, repeated n ∉ further a) :
    (ofNamed name unnamed repeated further seen as).count (repeated n) =
      as.countP (fun a => name a == some n) - if n ∈ seen then 0 else 1 := by
  induction as generalizing seen with
  | nil => simp [ofNamed]
  | cons a as ih =>
    rw [List.forall_mem_cons] at hfurther
    rw [ofNamed, List.count_append, List.count_append, ih hfurther.2,
      List.count_eq_zero.2 hfurther.1, List.countP_cons, count_ofName hinj hn hunnamed]
    by_cases ha : name a = some n <;> by_cases hseen : n ∈ seen <;> simp [ha, hseen]
    omega

/-- What is found of named things is about their names, or found of one of them. -/
theorem of_mem_ofNamed {f : Flaw} (h : f ∈ ofNamed name unnamed repeated further seen as) :
    f = unnamed ∨ (∃ s, f = repeated s) ∨ ∃ a ∈ as, f ∈ further a := by
  induction as generalizing seen with
  | nil => cases h
  | cons a as ih =>
    rw [ofNamed, List.mem_append, List.mem_append] at h
    rcases h with (h | h) | h
    · cases hs : name a with
      | none =>
        rw [hs] at h
        exact .inl (List.mem_singleton.1 h)
      | some s =>
        rw [hs, ofName] at h
        split at h
        · exact .inl (List.mem_singleton.1 h)
        · split at h
          · exact .inr (.inl ⟨s, List.mem_singleton.1 h⟩)
          · cases h
    · exact .inr (.inr ⟨a, List.mem_cons_self, h⟩)
    · rcases ih h with h | h | ⟨b, hb, hf⟩
      · exact .inl h
      · exact .inr (.inl h)
      · exact .inr (.inr ⟨b, List.mem_cons_of_mem _ hb, hf⟩)

end Named

theorem of_mem_ofBlank {f flaw : Flaw} {s : Option Text} (h : f ∈ ofBlank flaw s) : f = flaw := by
  rw [ofBlank] at h
  split at h
  · exact List.mem_singleton.1 h
  · cases h

theorem of_mem_ofCount {f none many : Flaw} {n : Nat} (h : f ∈ ofCount none many n) :
    f = none ∨ f = many := by
  match n with
  | 0 => exact .inl (List.mem_singleton.1 h)
  | 1 => cases h
  | _ + 2 => exact .inr (List.mem_singleton.1 h)

theorem of_mem_ofTarget {f : Flaw} {s : State} (h : f ∈ ofTarget s) :
    f = noNextState ∨ f = noFallback := by
  cases s with
  | operation | delay | parallel => exact .inl (of_mem_ofBlank h)
  | switch => exact .inr (of_mem_ofBlank h)
  | _ => cases h

end Flaw

namespace Workflow

open Flaw

variable {w : Workflow} {ss : List State} {ts : List Trigger} {strict : Bool}

/-- **The flaws of a workflow are the same in any order of its states and triggers.** -/
theorem flaws_perm (hs : ss.Perm w.states) (ht : ts.Perm w.triggers) :
    (flaws { w with states := ss, triggers := ts } strict).Perm (w.flaws strict) := by
  have hstart := hs.countP_eq State.isStart
  have hfinish := hs.countP_eq fun s => s.kind == .finish
  have hempty : ss.isEmpty = w.states.isEmpty := hs.isEmpty_eq
  simp only [flaws, ofStates, ofFinishes, hstart, hfinish, hempty]
  exact ((((ofNamed_perm hs).append_right _).append_left _).append_right _).append (ofNamed_perm ht)

/-- Apart from those of the whole and of the ends, the flaws are those of states and triggers. -/
theorem count_flaws {f : Flaw}
    (h : f ∉ [unnamedWorkflow, noStates, noStart, manyStarts, noFinish, manyFinishes]) :
    (w.flaws strict).count f =
      (ofNamed State.name unnamedState repeatedState ofTarget [] w.states).count f +
        (ofTriggers w.triggers).count f := by
  have hname : (ofBlank unnamedWorkflow w.name).count f = 0 := by
    refine List.count_eq_zero.2 fun hf => h ?_
    simp [of_mem_ofBlank hf]
  have hstates : (if w.states.isEmpty then [noStates] else []).count f = 0 := by
    refine List.count_eq_zero.2 fun hf => h ?_
    split at hf
    · simp [List.mem_singleton.1 hf]
    · cases hf
  have hstart : (ofCount noStart manyStarts (w.states.countP State.isStart)).count f = 0 := by
    refine List.count_eq_zero.2 fun hf => h ?_
    rcases of_mem_ofCount hf with rfl | rfl <;> simp
  have hfinish : (if strict then ofFinishes w.states else []).count f = 0 := by
    refine List.count_eq_zero.2 fun hf => h ?_
    split at hf
    · rcases of_mem_ofCount hf with rfl | rfl <;> simp
    · cases hf
  rw [flaws, ofStates]
  simp only [List.count_append, hname, hstates, hstart, hfinish]
  omega

/-- **How often a name of states is found to be repeated**: once less than it occurs. -/
theorem count_repeatedState {n : Text} (hn : ¬ IsBlank (some n)) :
    (w.flaws strict).count (repeatedState n) =
      w.states.countP (fun s => s.name == some n) - 1 := by
  have hblank : Text.isAllBlank n = false := by
    rwa [← isBlank_iff, Bool.not_eq_true] at hn
  have htriggers : (ofTriggers w.triggers).count (repeatedState n) = 0 := by
    refine List.count_eq_zero.2 fun hf => ?_
    rcases of_mem_ofNamed hf with h | ⟨_, h⟩ | ⟨_, -, h⟩
    · cases h
    · cases h
    · cases of_mem_ofBlank h
  rw [count_flaws (by simp), htriggers,
    count_ofNamed (fun _ _ h => Flaw.repeatedState.inj h) hblank (by simp) fun s _ hs => by
      rcases of_mem_ofTarget hs with h | h <;> cases h]
  simp

/-- **How often a name of triggers is found to be repeated**: once less than it occurs. -/
theorem count_repeatedTrigger {n : Text} (hn : ¬ IsBlank (some n)) :
    (w.flaws strict).count (repeatedTrigger n) =
      w.triggers.countP (fun t => t.name == some n) - 1 := by
  have hblank : Text.isAllBlank n = false := by
    rwa [← isBlank_iff, Bool.not_eq_true] at hn
  have hstates : (ofNamed State.name unnamedState repeatedState ofTarget [] w.states).count
      (repeatedTrigger n) = 0 := by
    refine List.count_eq_zero.2 fun hf => ?_
    rcases of_mem_ofNamed hf with h | ⟨_, h⟩ | ⟨_, -, h⟩
    · cases h
    · cases h
    · rcases of_mem_ofTarget h with h | h <;> cases h
  rw [count_flaws (by simp), hstates, ofTriggers,
    count_ofNamed (fun _ _ h => Flaw.repeatedTrigger.inj h) hblank (by simp) fun t _ ht => by
      cases of_mem_ofBlank ht]
  simp

end Workflow
end WorkflowKit
