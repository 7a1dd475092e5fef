/-
# States that are written and read again

States of all kinds are faithful (`state_faithful`).  A parallel state holds branches and these
hold states: whatever reads the states of a branch faithfully makes the branch faithful
(`branchOf_faithful`), and so on up to the parallel state, by induction on the bound with which it
is read.
-/

import WorkflowKit.Proofs.Decode.Depth
import WorkflowKit.Proofs.Decode.Part

namespace WorkflowKit
namespace State

mutual

/-- A state as it comes back. -/
def back : State → State
  | event h es => event h (es.map Event.back)
  | operation h m as next f => operation h m (as.map Action.back) next f
  | parallel h bs next => parallel h (backBranches bs) next
  | s => s

/-- A branch as it comes back. -/
def backBranch : Branch → Branch
  | .mk name states waits => .mk name (backAll states) waits

/-- States as they come back. -/
def backAll : List State → List State
  | [] => []
  | s :: ss => back s :: backAll ss

/-- Branches as they come back. -/
def backBranches : List Branch → List Branch
  | [] => []
  | b :: bs => backBranch b :: backBranches bs

end

theorem backAll_eq_map (ss : List State) : backAll ss = ss.map back := by
  induction ss with
  | nil => rfl
  | cons s ss ih => rw [backAll, ih, List.map_cons]

theorem backBranches_eq_map (bs : List Branch) : backBranches bs = bs.map backBranch := by
  induction bs with
  | nil => rfl
  | cons b bs ih => rw [backBranches, ih, List.map_cons]

theorem documents_eq_map (ss : List State) : documents ss = ss.map document := by
  induction ss with
  | nil => rfl
  | cons s ss ih => rw [documents, ih, List.map_cons]

theorem branchDocuments_eq_map (bs : List Branch) :
    branchDocuments bs = bs.map branchDocument := by
  induction bs with
  | nil => rfl
  | cons b bs ih => rw [branchDocuments, ih, List.map_cons]

end State

namespace Decode

open Member (docEntries Holds valueOf?)
open FieldSpec (plain flag words kind)

variable {r : ExtensionRegistry}

/-! ### What all states have -/

/-- What all kinds of states have in common is written first, and the fields of the kind behind it.
-/
theorem writesAll_head {k : StateKind} {es : List (Scalar × Doc)} {h : StateHead}
    (hh : (headOf k).read es = .ok h) {specs : List FieldSpec} {ms : List Member}
    (hms : WritesAll r specs es ms) :
    WritesAll r (plain (same "name") .text :: kind k.text :: flag (same "start") ::
      flag (same "end") :: specs) es (h.members k ++ ms) := by
  simp only [headOf, head, Fields.map_read_eq_ok, Fields.seq_read_eq_ok] at hh
  obtain ⟨_, ⟨_, ⟨_, ⟨_, ⟨name, h₁, rfl⟩, _, h₂, rfl⟩, start, h₃, rfl⟩, final, h₄, rfl⟩, rfl⟩ := hh
  exact .cons ⟨rfl, (faithful_text _).writes h₁⟩ (.cons ⟨rfl, (faithful_kind _).writes h₂⟩
    (.cons ⟨rfl, (faithful_flag _).writes h₃⟩ (.cons ⟨rfl, (faithful_flag _).writes h₄⟩ hms)))

/-- It is read back from what is written for it, if no field of the kind is called `name`. -/
theorem headOf_rereads {k : StateKind} {es : List (Scalar × Doc)} {h : StateHead}
    (hh : (headOf k).read es = .ok h) {ms : List Member} (hms : valueOf? ms "name" = none) :
    (headOf k).read (docEntries (h.members k ++ ms)) = .ok h := by
  simp only [headOf, head, Fields.map_read_eq_ok, Fields.seq_read_eq_ok] at hh
  obtain ⟨_, ⟨_, ⟨_, ⟨_, ⟨name, h₁, rfl⟩, _, h₂, rfl⟩, start, h₃, rfl⟩, final, h₄, rfl⟩, rfl⟩ := hh
  rw [headOf, head, Fields.map_read, Fields.seq_read, Fields.seq_read, Fields.seq_read,
    Fields.map_read,
    (faithful_text (r := .empty) _).rereads h₁ (by simp [Holds, StateHead.members, hms]),
    (faithful_kind (r := .empty) _).rereads h₂ (by simp [Holds, StateHead.members, kind, words]),
    (faithful_flag (r := .empty) _).rereads h₃ (by simp [Holds, StateHead.members]),
    (faithful_flag (r := .empty) _).rereads h₄ (by simp [Holds, StateHead.members])]
  rfl

/-! ### The kinds of states -/

/-- Event states come back with the events that come back. -/
theorem eventState_faithful : Faithful r (.part (.state .event)) eventState eventState
    State.document State.back := by
  refine record_faithful rfl rfl (by decide) fun es a h => ?_
  simp only [Fields.map_read_eq_ok, Fields.seq_read_eq_ok] at h
  obtain ⟨_, ⟨head, h₁, rfl⟩, events, h₂, rfl⟩ := h
  have hevents := (event_faithful (r := r)).list (same "events")
  refine ⟨_, rfl, writesAll_head h₁ (.cons ⟨rfl, hevents.writes h₂⟩ .nil), ?_⟩
  rw [Fields.seq_read, Fields.map_read, headOf_rereads h₁ (by simp),
    hevents.rereads h₂ (by simp [Holds, StateHead.members])]
  rfl

/-- Operation states come back with the actions that come back. -/
theorem operationState_faithful : Faithful r (.part (.state .operation)) operationState
    operationState State.document State.back := by
  refine record_faithful rfl rfl (by decide) fun es a h => ?_
  simp only [Fields.map_read_eq_ok, Fields.seq_read_eq_ok] at h
  obtain ⟨_, ⟨_, ⟨_, ⟨_, ⟨head, h₁, rfl⟩, mode, h₂, rfl⟩, actions, h₃, rfl⟩, next, h₄, rfl⟩,
    filter, h₅, rfl⟩ := h
  have hactions := (action_faithful (r := r)).list (same "actions")
  have hfilter := (filter_faithful (r := r)).maybe_id (fun _ h => h) (same "filter")
  refine ⟨_, rfl, writesAll_head h₁ (.cons ⟨rfl, faithful_mode.writes h₂⟩
    (.cons ⟨rfl, hactions.writes h₃⟩ (.cons ⟨rfl, (faithful_text _).writes h₄⟩
      (.cons ⟨rfl, hfilter.writes h₅⟩ .nil)))), ?_⟩
  rw [Fields.seq_read, Fields.seq_read, Fields.seq_read, Fields.seq_read, Fields.map_read,
    headOf_rereads h₁ (by simp),
    (faithful_mode (r := r)).rereads h₂
      (by simp [Holds, StateHead.members, FieldSpec.mode, words, actionMode]),
    hactions.rereads h₃ (by simp [Holds, StateHead.members]),
    (faithful_text (r := r) _).rereads h₄ (by simp [Holds, StateHead.members, nextState]),
    hfilter.rereads h₅ (by simp [Holds, StateHead.members])]
  rfl

/-- Switch states come back as they were. -/
theorem switchState_faithful : Faithful r (.part (.state .switch)) switchState switchState
    State.document State.back := by
  refine record_faithful rfl rfl (by decide) fun es a h => ?_
  simp only [Fields.map_read_eq_ok, Fields.seq_read_eq_ok] at h
  obtain ⟨_, ⟨_, ⟨head, h₁, rfl⟩, choices, h₂, rfl⟩, fallback, h₃, rfl⟩ := h
  have hchoices := (choice_faithful (r := r)).list_id (same "choices")
  refine ⟨_, rfl, writesAll_head h₁ (.cons ⟨rfl, hchoices.writes h₂⟩
    (.cons ⟨rfl, (faithful_text _).writes h₃⟩ .nil)), ?_⟩
  rw [Fields.seq_read, Fields.seq_read, Fields.map_read, headOf_rereads h₁ (by simp),
    hchoices.rereads h₂ (by simp [Holds, StateHead.members]),
    (faithful_text (r := r) _).rereads h₃ (by simp [Holds, StateHead.members])]
  rfl

/-- Delay states come back as they were. -/
theorem delayState_faithful : Faithful r (.part (.state .delay)) delayState delayState
    State.document State.back := by
  refine record_faithful rfl rfl (by decide) fun es a h => ?_
  simp only [Fields.map_read_eq_ok, Fields.seq_read_eq_ok] at h
  obtain ⟨_, ⟨_, ⟨head, h₁, rfl⟩, seconds, h₂, rfl⟩, next, h₃, rfl⟩ := h
  refine ⟨_, rfl, writesAll_head h₁ (.cons ⟨rfl, (faithful_count _).writes h₂⟩
    (.cons ⟨rfl, (faithful_text _).writes h₃⟩ .nil)), ?_⟩
  rw [Fields.seq_read, Fields.seq_read, Fields.map_read, headOf_rereads h₁ (by simp),
    (faithful_count (r := r) _).rereads h₂ (by simp [Holds, StateHead.members]),
    (faithful_text (r := r) _).rereads h₃ (by simp [Holds, StateHead.members, nextState])]
  rfl

/-- End states come back as they were, their status included. -/
theorem finishState_faithful : Faithful r (.part (.state .finish)) finishState finishState
    State.document State.back := by
  refine record_faithful rfl rfl (by decide) fun es a h => ?_
  simp only [Fields.map_read_eq_ok, Fields.seq_read_eq_ok] at h
  obtain ⟨_, ⟨head, h₁, rfl⟩, status, h₂, rfl⟩ := h
  refine ⟨_, rfl, writesAll_head h₁ (.cons ⟨rfl, faithful_status.writes h₂⟩ .nil), ?_⟩
  rw [Fields.seq_read, Fields.map_read, headOf_rereads h₁ (by simp),
    (faithful_status (r := r)).rereads h₂ (by simp [Holds, StateHead.members, words])]
  rfl

/-- Subflow states come back as they were. -/
theorem subflowState_faithful : Faithful r (.part (.state .subflow)) subflowState subflowState
    State.document State.back := by
  refine record_faithful rfl rfl (by decide) fun es a h => ?_
  simp only [Fields.map_read_eq_ok, Fields.seq_read_eq_ok] at h
  obtain ⟨_, ⟨_, ⟨_, ⟨head, h₁, rfl⟩, id, h₂, rfl⟩, version, h₃, rfl⟩, waits, h₄, rfl⟩ := h
  refine ⟨_, rfl, writesAll_head h₁ (.cons ⟨rfl, (faithful_text _).writes h₂⟩
    (.cons ⟨rfl, (faithful_text _).writes h₃⟩ (.cons ⟨rfl, (faithful_flag _).writes h₄⟩ .nil))), ?_⟩
  rw [Fields.seq_read, Fields.seq_read, Fields.seq_read, Fields.map_read,
    headOf_rereads h₁ (by simp),
    (faithful_text (r := r) _).rereads h₂ (by simp [Holds, StateHead.members]),
    (faithful_text (r := r) _).rereads h₃ (by simp [Holds, StateHead.members]),
    (faithful_flag (r := r) _).rereads h₄ (by simp [Holds, StateHead.members, waitForCompletion])]
  rfl

/-! ### States inside states -/

/-- **A branch is faithful if its states are.** -/
theorem branchOf_faithful {state again : Decoder State}
    (h : Faithful r .anyState state again State.document State.back) :
    Faithful r (.part .branch) (branchOf state) (branchOf again) State.branchDocument
      State.backBranch := by
  refine record_faithful rfl rfl (by decide) fun es a ha => ?_
  simp only [Fields.map_read_eq_ok, Fields.seq_read_eq_ok] at ha
  obtain ⟨_, ⟨_, ⟨name, h₁, rfl⟩, states, h₂, rfl⟩, waits, h₃, rfl⟩ := ha
  have hstates := h.list (same "states")
  refine ⟨_, rfl, .cons ⟨rfl, (faithful_text _).writes h₁⟩ (.cons ⟨rfl, ?_⟩
    (.cons ⟨rfl, (faithful_flag _).writes h₃⟩ .nil)), ?_⟩
  · rw [State.documents_eq_map]
    exact hstates.writes h₂
  · rw [State.documents_eq_map, Fields.seq_read, Fields.seq_read, Fields.map_read,
      (faithful_text (r := r) _).rereads h₁ (by simp [Holds]),
      hstates.rereads h₂ (by simp [Holds]),
      (faithful_flag (r := r) _).rereads h₃ (by simp [Holds, waitForCompletion]),
      State.backBranch, State.backAll_eq_map]
    rfl

/-- **A parallel state is faithful if its branches are.** -/
theorem parallelStateOf_faithful {branch again : Decoder Branch}
    (h : Faithful r (.part .branch) branch again State.branchDocument State.backBranch) :
    Faithful r (.part (.state .parallel)) (parallelStateOf branch) (parallelStateOf again)
      State.document State.back := by
  refine record_faithful rfl rfl (by decide) fun es a ha => ?_
  simp only [Fields.map_read_eq_ok, Fields.seq_read_eq_ok] at ha
  obtain ⟨_, ⟨_, ⟨head, h₁, rfl⟩, branches, h₂, rfl⟩, next, h₃, rfl⟩ := ha
  have hbranches := h.list (same "branches")
  refine ⟨_, rfl, writesAll_head h₁ (.cons ⟨rfl, ?_⟩
    (.cons ⟨rfl, (faithful_text _).writes h₃⟩ .nil)), ?_⟩
  · rw [State.branchDocuments_eq_map]
    exact hbranches.writes h₂
  · rw [State.branchDocuments_eq_map, Fields.seq_read, Fields.seq_read, Fields.map_read,
      headOf_rereads h₁ (by simp),
      hbranches.rereads h₂ (by simp [Holds, StateHead.members]),
      (faithful_text (r := r) _).rereads h₃ (by simp [Holds, StateHead.members, nextState]),
      State.back, State.backBranches_eq_map]
    rfl

/-- **A state is faithful if parallel states are.** -/
theorem stateBy_faithful {parallel again : Decoder State}
    (h : Faithful r (.part (.state .parallel)) parallel again State.document State.back) :
    Faithful r .anyState (stateBy parallel) (stateBy again) State.document State.back := by
  refine tagged_faithful Part.state (by decide) (fun _ _ h => h)
    (fun k => List.mem_cons_of_mem _ (List.mem_cons_self ..)) fun k => ?_
  cases k with
  | event => exact eventState_faithful
  | operation => exact operationState_faithful
  | switch => exact switchState_faithful
  | delay => exact delayState_faithful
  | parallel => exact h
  | finish => exact finishState_faithful
  | subflow => exact subflowState_faithful

/-- A parallel state is faithful, whatever the bound with which it is read at first.  What is
written for it is a plain document, for which no bound matters. -/
theorem parallelStateIn_faithful (fuel : Nat) (active : List Nat) :
    Faithful r (.part (.state .parallel)) (parallelStateIn fuel active) parallelState
      State.document State.back := by
  induction fuel generalizing active with
  | zero => exact ⟨fun ha => absurd ha Checked.fail_ne_ok, fun ha => absurd ha Checked.fail_ne_ok⟩
  | succ fuel ih =>
    have hstep {d : Doc} {a : State} (ha : parallelStateIn (fuel + 1) active d = .ok a) :
        parallelStateOf (branchOf (stateBy (parallelStateIn fuel (marks d ++ active)))) d =
          .ok a := by
      simp only [parallelStateIn] at ha
      split at ha
      · exact absurd ha Checked.fail_ne_ok
      · exact ha
    have hinner (active : List Nat) :=
      parallelStateOf_faithful (branchOf_faithful (stateBy_faithful (ih active)))
    refine ⟨fun ha => (hinner _).renders (hstep ha), fun {d a} ha => ?_⟩
    rw [parallelState_toDoc]
    exact (hinner _).rereads (hstep ha)

/-- **A state of any kind is faithful.** -/
theorem state_faithful : Faithful r .anyState state state State.document State.back :=
  stateBy_faithful ⟨fun ha => (parallelStateIn_faithful _ _).renders ha,
    fun ha => (parallelStateIn_faithful (r := r) _ _).rereads ha⟩

end Decode
end WorkflowKit
