/-
# Looking things up in a workflow

States and triggers are found by name; of several with one name the first counts.  What is found
comes with its place in the list that it belongs to.
-/

import WorkflowKit.Workflow

namespace WorkflowKit

/-- Items by their names, the first of each name, in order; items without a name are left out. -/
def firstByName {α : Type} (name : α → Option Text) (items : List α) : List (Text × α) :=
  items.foldl (fun acc a =>
    match name a with
    | some s =>
      if s.isEmpty || acc.any (fun e => e.1 == s) then acc else acc ++ [(s, a)]
    | none => acc) []

namespace Workflow

/-- The states with their places. -/
def placedStates (w : Workflow) : List (State × Nat) := w.states.zipIdx

/-- The triggers with their places. -/
def placedTriggers (w : Workflow) : List (Trigger × Nat) := w.triggers.zipIdx

/-- The first state of a name, which may be missing. -/
def state? (w : Workflow) (name : Option Text) : Option (State × Nat) :=
  w.placedStates.find? fun s => s.1.name == name

/-- The first trigger of a name, which may be missing. -/
def trigger? (w : Workflow) (name : Option Text) : Option (Trigger × Nat) :=
  w.placedTriggers.find? fun t => t.1.name == name

/-- The states by name. -/
def statesByName (w : Workflow) : List (Text × (State × Nat)) :=
  firstByName (fun s => s.1.name) w.placedStates

/-- The triggers by name. -/
def triggersByName (w : Workflow) : List (Text × (Trigger × Nat)) :=
  firstByName (fun t => t.1.name) w.placedTriggers

/-- The state of a name among the states by name. -/
def namedState? (w : Workflow) (name : Text) : Option (State × Nat) :=
  (w.statesByName.find? fun e => e.1 == name).map Prod.snd

/-- The state that the workflow starts with: the one that it names, or else the first that is
marked. -/
def startState? (w : Workflow) : Option (State × Nat) :=
  let chosen := match w.startsAt with
    | some s => if s.isEmpty then none else w.namedState? s
    | none => none
  chosen.or (w.placedStates.find? fun s => s.1.isStart)

/-- Whether a state is marked as an end. -/
def hasEnd (w : Workflow) : Bool := w.states.any State.isFinal

/-- The states that wait for triggers, with their events and places. -/
def eventStates (w : Workflow) : List (List Event × (State × Nat)) :=
  w.placedStates.filterMap fun s => s.1.events?.map fun es => (es, s)

end Workflow

/-- The actions of events. -/
def Event.allActions (es : List Event) : List Action := es.flatMap Event.actions

/-- The functions of actions. -/
def Action.functions (as : List Action) : List Function := as.filterMap Action.function

end WorkflowKit
