/-
# Looking things up in a valid workflow

Where a validation finds nothing, names are not blank and no two states or triggers share one.  So
every look-up by name is unambiguous, the workflow has one start, and collecting the matching
triggers by name loses none of them (`Manager.lookup_of_isClean`).

One thing a valid workflow does not ensure: that the triggers which match can be told at all.  An
evaluator shows a value that is no truth value, and an integer that is too long to be written cannot
be shown (`Manager.not_forall_losesNone`).
-/

import WorkflowKit.Proofs.Manager.Validation
import WorkflowKit.Proofs.Workflow.Matching

namespace WorkflowKit

/-- Names and marks lead to one state or trigger each. -/
structure Workflow.IsUnambiguous (w : Workflow) : Prop where
  /-- Every state is found by its name. -/
  state : ∀ s ∈ w.placedStates, w.state? s.1.name = some s
  /-- The states by name are all states, in their order. -/
  states : w.statesByName.map (fun e => (some e.1, e.2)) =
    w.placedStates.map fun s => (s.1.name, s)
  /-- Every trigger is found by its name. -/
  trigger : ∀ t ∈ w.placedTriggers, w.trigger? t.1.name = some t
  /-- The triggers by name are all triggers, in their order. -/
  triggers : w.triggersByName.map (fun e => (some e.1, e.2)) =
    w.placedTriggers.map fun t => (t.1.name, t)
  /-- The workflow starts with some state.  Unless it names one, only that state is marked. -/
  start : ∃ s, w.startState? = some s ∧
    ((∀ t ∈ w.states, t.name ≠ w.startsAt) → w.placedStates.filter (fun t => t.1.isStart) = [s])

/-- The matching triggers can be told, and each of them is collected once, whether or not several
states match it. -/
structure Workflow.LosesNone (w : Workflow) (e : Evaluator) : Prop where
  /-- They can be told. -/
  told : w.matchFault? e = none
  /-- None is collected twice. -/
  nodup : (w.matchedTriggers e).Nodup
  /-- Those are collected that match a state. -/
  mem : ∀ t, t ∈ w.matchedTriggers e ↔
    t ∈ w.placedTriggers ∧ ∃ s ∈ w.eventStates, e.matchesAny s.1 t.1 = true

/-- Whatever an evaluator computes for the triggers of a workflow is a truth value, or can be
shown. -/
def Evaluator.Tells (e : Evaluator) (w : Workflow) : Prop :=
  ∀ s ∈ w.eventStates, ∀ event ∈ s.1, ∀ x ∈ event.expression, ∀ t ∈ w.triggers, ∀ v,
    e.value? x (.trigger t) = some v → (∃ b, v = .bool b) ∨ v.holdsLongInt = false

theorem Evaluator.Tells.matchFault? {e : Evaluator} {w : Workflow} (h : e.Tells w) :
    w.matchFault? e = none := by
  refine Evaluator.matchFault?_eq_none.2 fun s hs t ht event hcounts x hx v hv => ?_
  obtain ⟨before, after, heq, -⟩ := hcounts
  have hevent : event ∈ s.1 := heq ▸ List.mem_append_right before List.mem_cons_self
  exact h s hs event hevent x hx t ht v hv

theorem exists_mem_of_not_isBlank {s : Option Text} (h : ¬ IsBlank s) : ∃ t ∈ s, t ≠ ⟨[]⟩ := by
  by_contra hnone
  refine h fun t ht p hp => ?_
  by_contra
  refine hnone ⟨t, ht, ?_⟩
  rintro rfl
  cases hp

theorem Workflow.startState?_eq (w : Workflow) :
    w.startState? = ((w.startsAt.filter fun s => !s.isEmpty).bind w.namedState?).or
      (w.placedStates.find? fun s => s.1.isStart) := by
  rw [startState?]
  cases w.startsAt with
  | none => rfl
  | some s => cases hs : s.isEmpty <;> simp [Option.filter, hs]

namespace Workflow.IsSound

variable {w : Workflow} {strict : Bool}

theorem exists_start (h : w.IsSound strict) :
    ∃ s, w.placedStates.filter (fun t => t.1.isStart) = [s] := by
  rw [← List.length_eq_one_iff, ← List.countP_eq_length_filter, ← h.start, placedStates]
  conv_rhs => rw [← List.zipIdx_map_fst 0 w.states, List.countP_map]
  rfl

/-- A state that is found among the states by name has the name. -/
theorem name_of_namedState? (h : w.statesByName.map (fun e => (some e.1, e.2)) =
    w.placedStates.map fun s => (s.1.name, s)) {name : Text} {s : State × Nat}
    (hs : w.namedState? name = some s) : s.1.name = some name ∧ s.1 ∈ w.states := by
  obtain ⟨e, he, rfl⟩ := Option.map_eq_some_iff.1 hs
  have hname : e.1 = name :=
    eq_of_beq (List.find?_some (p := fun e : Text × (State × Nat) => e.1 == name) he)
  have hmem := List.mem_map_of_mem (f := fun e : Text × (State × Nat) => (some e.1, e.2))
    (List.mem_of_find?_eq_some he)
  rw [h] at hmem
  obtain ⟨s, hs, heq⟩ := List.mem_map.1 hmem
  obtain ⟨hsome, rfl⟩ := Prod.ext_iff.1 heq
  exact ⟨hsome.trans (congrArg some hname), List.fst_mem_of_mem_zipIdx hs⟩

theorem isUnambiguous (h : w.IsSound strict) : w.IsUnambiguous := by
  have hstates : (w.placedStates.map fun s => s.1.name).Nodup := by
    rw [map_placedStates]
    exact h.stateNames
  have htriggers : (w.placedTriggers.map fun t => t.1.name).Nodup := by
    rw [map_placedTriggers]
    exact h.triggerNames
  have hbyName := firstByName_eq (fun s hs =>
    exists_mem_of_not_isBlank (h.stateNamed s.1 (List.fst_mem_of_mem_zipIdx hs))) hstates
  obtain ⟨marked, hmarked⟩ := h.exists_start
  refine {
    state := fun s hs => find?_name hstates hs
    states := hbyName
    trigger := fun t ht => find?_name htriggers ht
    triggers := firstByName_eq (fun t ht =>
      exists_mem_of_not_isBlank (h.triggerNamed t.1 (List.fst_mem_of_mem_zipIdx ht))) htriggers
    start := ?_ }
  have hfind : w.placedStates.find? (fun s => s.1.isStart) = some marked := by
    rw [← List.head?_filter, hmarked]
    rfl
  rw [startState?_eq, hfind]
  cases hchosen : (w.startsAt.filter fun s => !s.isEmpty).bind w.namedState? with
  | none => exact ⟨marked, rfl, fun _ => hmarked⟩
  | some s =>
    obtain ⟨name, hname, hs⟩ := Option.bind_eq_some_iff.1 hchosen
    obtain ⟨hs, hmem⟩ := name_of_namedState? hbyName hs
    -- If no state is named as the first one, the program cannot have found one by that name.
    refine ⟨s, rfl, fun hnone => absurd ?_ (hnone _ hmem)⟩
    rw [hs, (Option.filter_eq_some_iff.1 hname).1]

theorem losesNone (h : w.IsSound strict) {e : Evaluator} (he : e.Tells w) : w.LosesNone e where
  told := he.matchFault?
  nodup := .of_map _ (nodup_matchedTriggers w e)
  mem := fun _ => mem_matchedTriggers h.triggerNames

end Workflow.IsSound

namespace Manager

/-- A validation that is switched on and finds nothing finds no flaw. -/
theorem isSound_of_isClean {m : Manager} {w : Workflow} (hw : m.workflow = some w)
    (henabled : m.validator.flags.enabled = true) (h : (m.after .validate).isClean = true) :
    w.IsSound m.validator.flags.strict := by
  rw [isClean, diagnostics_validate, List.isEmpty_iff, Diagnostic.all, if_pos henabled, hw,
    Diagnostic.ofWorkflow, List.append_eq_nil_iff, List.map_eq_nil_iff] at h
  exact Workflow.flaws_eq_nil.1 h.2

/-- **Looking things up in a valid workflow is unambiguous.** Every state and every trigger is found
by its name, the tables by names list all of them in order, and some state is the start.  Collecting
the matching triggers by name loses none of them, if the evaluator can tell which they are. -/
theorem lookup_of_isClean {m : Manager} {w : Workflow} (hw : m.workflow = some w)
    (henabled : m.validator.flags.enabled = true) (h : (m.after .validate).isClean = true) :
    w.IsUnambiguous ∧ ∀ e : Evaluator, e.Tells w → w.LosesNone e :=
  have hsound := isSound_of_isClean hw henabled h
  ⟨hsound.isUnambiguous, fun _ he => hsound.losesNone he⟩

/-- The trigger of `orderText`. -/
def paid : Trigger := ⟨some ↑"paid", none, none, some ↑"id"⟩

/-- An event with nothing but an expression. -/
def awaiting (source : String) : Event := ⟨some ↑source, none, .sequential, none, []⟩

/-- A workflow with one trigger, and two states that wait for what an expression each says. -/
def waitingWorkflow (first second : String) : Workflow where
  id := none
  name := some ↑"order"
  version := none
  startsAt := none
  triggers := [paid]
  states := [.event ⟨some ↑"wait", true, false⟩ [awaiting first],
    .event ⟨some ↑"pay", false, false⟩ [awaiting second]]
  metadata := .empty
  extensions := []

/-- Changes after which a manager has a workflow, and a validator that is switched on and does
not use the schema nor search for ends. -/
def taking (w : Workflow) : List Operation :=
  [.replace (some w), .setEnabled true, .setSchema false, .setStrict false]

/-- Such a manager finds the flaws of its workflow, and nothing else. -/
theorem isClean_taking (m : Manager) (w : Workflow) :
    ((m.run (taking w)).after .validate).isClean = (w.flaws false).isEmpty := by
  rw [isClean, diagnostics_validate]
  show ((w.flaws false).map _).isEmpty = _
  exact List.isEmpty_map

/-- A workflow whose two states match the same trigger. -/
def sharingWorkflow : Workflow := waitingWorkflow "name == 'paid'" "correlationToken == 'id'"

/-- A trigger that two states match is collected once: the workflow is valid, and one trigger is all
that matches. -/
theorem lookup_of_isClean_sharing :
    ∃ m, make plainSettings (.standard plainSettings) none ⟨[], fun _ => none⟩ = .ok m ∧
      (m.run (taking sharingWorkflow)).workflow = some sharingWorkflow ∧
      (m.run (taking sharingWorkflow)).validator.flags.enabled = true ∧
      ((m.run (taking sharingWorkflow)).after .validate).isClean = true ∧
      sharingWorkflow.IsUnambiguous ∧ sharingWorkflow.LosesNone .forAttributes ∧
      sharingWorkflow.matchedTriggers .forAttributes = [(paid, 0)] := by
  have hshort : ∀ s ∈ sharingWorkflow.eventStates, ∀ event ∈ s.1, ∀ x ∈ event.expression,
      ∀ t ∈ sharingWorkflow.triggers,
        (Evaluator.forAttributes.value? x (.trigger t)).any Value.holdsLongInt = false := by
    decide +kernel
  have htells : Evaluator.Tells .forAttributes sharingWorkflow := by
    intro s hs event hevent x hx t ht v hv
    have hv' := hshort s hs event hevent x hx t ht
    rw [hv] at hv'
    exact .inr hv'
  have hmatched : sharingWorkflow.matchedTriggers .forAttributes = [(paid, 0)] := by
    decide +kernel
  have hclean (m : Manager) : ((m.run (taking sharingWorkflow)).after .validate).isClean = true :=
    (isClean_taking m _).trans (by decide)
  obtain ⟨m, hm⟩ : ∃ m, make plainSettings (.standard plainSettings) none ⟨[], fun _ => none⟩ =
    .ok m := ⟨_, rfl⟩
  obtain ⟨hunambiguous, hlookup⟩ := lookup_of_isClean rfl rfl (hclean m)
  exact ⟨m, hm, rfl, rfl, hclean m, hunambiguous, hlookup _ htells, hmatched⟩

/-- An event whose expression has a value that cannot be shown keeps an evaluator from telling
which triggers match, whatever other events there are. -/
theorem matchFault?_waiting {e : Evaluator} {first : String} (second : String) {n : Int}
    (hvalue : e.value? ↑first (.trigger paid) = some (.int n))
    (hlong : Number.exceedsDigitLimit n = true) :
    (waitingWorkflow first second).matchFault? e = some .writing := by
  have hfault : e.fault? ↑first (.trigger paid) = some .writing := by
    rw [Evaluator.fault?, hvalue]
    exact if_pos hlong
  have haccepts : e.accepts ↑first (.trigger paid) = false := by
    rw [Evaluator.accepts, hvalue]
  have hfirst : e.anyFault? paid [awaiting first] = some .writing := by
    rw [Evaluator.anyFault?]
    dsimp only [awaiting]
    rw [haccepts, hfault]
    rfl
  have htriggers : (waitingWorkflow first second).triggersFault? e [awaiting first] =
      some .writing := by
    rw [Workflow.triggersFault?]
    show [paid].findSome? _ = _
    rw [List.findSome?_cons, hfirst]
  rw [Workflow.matchFault?]
  show ([_, _] : List (List Event × (State × Nat))).findSome? _ = _
  rw [List.findSome?_cons, htriggers]

/-- The matching triggers of a workflow cannot be told where an expression has a value of 3600
hexadecimal digits, although another state matches. -/
theorem not_forall_losesNone :
    ¬ ∀ (settings : Settings) (m : Manager) (ops : List Operation) (w : Workflow),
      make settings (.standard settings) none ⟨[], fun _ => none⟩ = .ok m →
        (m.run ops).workflow = some w → (m.run ops).validator.flags.enabled = true →
          ((m.run ops).after .validate).isClean = true → w.LosesNone .forAttributes := by
  intro h
  let long := String.ofList (Expression.hexadecimal (3599 + 1))
  have hfault := matchFault?_waiting "true" (Evaluator.value?_hexadecimal paid 3599)
    (by decide +kernel)
  have hclean (m : Manager) :
      ((m.run (taking (waitingWorkflow long "true"))).after .validate).isClean = true :=
    (isClean_taking m _).trans (by decide)
  obtain ⟨m, hm⟩ : ∃ m, make plainSettings (.standard plainSettings) none ⟨[], fun _ => none⟩ =
    .ok m := ⟨_, rfl⟩
  have htold := (h plainSettings m _ _ hm rfl rfl (hclean m)).told
  rw [hfault] at htold
  cases htold

end Manager
end WorkflowKit
