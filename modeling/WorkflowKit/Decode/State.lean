/-
# Reading states

A state names its kind; a record that is read as a state of a known kind may leave it out.

A parallel state holds branches, and these hold states again.  Reading follows the document down:
`fuel` bounds the depth, and `active` holds the marks of the parallel states around a place, so
that a state that stands inside itself is a fault.
-/

import WorkflowKit.Decode.Part

namespace WorkflowKit
namespace Decode

/-- What all kinds of states have, read together with the kind. -/
def head {κ : Type} (kind : Fields κ) : Fields (StateHead × κ) :=
  (fun name kind start final => (⟨name, start, final⟩, kind))
    <$> maybe (same "name") text
    <*> kind
    <*> withDefault (same "start") false truth
    <*> withDefault (same "end") false truth

/-- What a state of a known kind has in common with the others. -/
def headOf (kind : StateKind) : Fields StateHead :=
  Prod.fst <$> head (knownKind kind.text)

/-- A state of which only the common fields are read. -/
def bareState : Decoder BareState :=
  record "BaseState" ((fun p => ⟨p.1, p.2⟩)
    <$> head (required (same "type") (oneOf StateKind.text StateKind.all)))

/-- A state that waits for triggers. -/
def eventState : Decoder State :=
  record "EventState" (State.event
    <$> headOf .event
    <*> withDefault (same "events") [] (list event))

/-- A state that performs actions. -/
def operationState : Decoder State :=
  record "OperationState" (State.operation
    <$> headOf .operation
    <*> withDefault actionMode .sequential mode
    <*> withDefault (same "actions") [] (list action)
    <*> maybe nextState text
    <*> maybe (same "filter") filter)

/-- A state that picks the next one. -/
def switchState : Decoder State :=
  record "SwitchState" (State.switch
    <$> headOf .switch
    <*> withDefault (same "choices") [] (list choice)
    <*> maybe (same "default") text)

/-- A state that waits. -/
def delayState : Decoder State :=
  record "DelayState" (State.delay
    <$> headOf .delay
    <*> maybe ⟨"time-delay", "time_delay"⟩ natural
    <*> maybe nextState text)

/-- A state that ends the workflow. -/
def finishState : Decoder State :=
  record "EndState" (State.finish
    <$> headOf .finish
    <*> withDefault (same "status") .success (oneOf EndStatus.text EndStatus.all))

/-- A state that starts another workflow. -/
def subflowState : Decoder State :=
  record "SubflowState" (State.subflow
    <$> headOf .subflow
    <*> maybe ⟨"workflow-id", "workflow_id"⟩ text
    <*> maybe (same "version") text
    <*> withDefault waitForCompletion false truth)

/-- A branch whose states are read by `state`. -/
def branchOf (state : Decoder State) : Decoder Branch :=
  record "Branch" (Branch.mk
    <$> maybe (same "name") text
    <*> withDefault (same "states") [] (list state)
    <*> withDefault waitForCompletion false truth)

/-- A parallel state whose branches are read by `branch`. -/
def parallelStateOf (branch : Decoder Branch) : Decoder State :=
  record "ParallelState" (State.parallel
    <$> headOf .parallel
    <*> withDefault (same "branches") [] (list branch)
    <*> maybe nextState text)

/-- The numbers of the marks around a document. -/
def marks : Doc → List Nat
  | .shared id d => id :: marks d
  | _ => []

/-- A state of any kind; a parallel state is read by `parallel`. -/
def stateBy (parallel : Decoder State) : Decoder State :=
  tagged StateKind.text StateKind.all fun
    | .event => eventState
    | .operation => operationState
    | .switch => switchState
    | .delay => delayState
    | .parallel => parallel
    | .finish => finishState
    | .subflow => subflowState

/-- A parallel state inside the parallel states `active`. -/
def parallelStateIn : Nat → List Nat → Decoder State
  | 0, _ => fun _ => .fail .endless
  | fuel + 1, active => fun d =>
    if (marks d).any active.contains then .fail .endless
    else parallelStateOf (branchOf (stateBy (parallelStateIn fuel (marks d ++ active)))) d

/-- A parallel state.  Each level of branches lies deeper in the document. -/
def parallelState : Decoder State := fun d => parallelStateIn (d.depth + 1) [] d

/-- A state of any kind. -/
def state : Decoder State := stateBy parallelState

/-- A branch. -/
def branch : Decoder Branch := branchOf state

end Decode
end WorkflowKit
