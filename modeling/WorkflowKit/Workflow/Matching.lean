/-
# Matching triggers with states

A state that waits for triggers matches a trigger if the expression of one of its events does.  An
event without an expression matches nothing.

Each question about matching has a companion that says why it has no answer.  Where there is one,
the answer of the question counts for nothing.
-/

import WorkflowKit.Evaluator
import WorkflowKit.Workflow.Lookup

namespace WorkflowKit

/-- Whether one of some events matches a trigger. -/
def Evaluator.matchesAny (e : Evaluator) (events : List Event) (t : Trigger) : Bool :=
  events.any fun event =>
    match event.expression with
    | some s => e.accepts s (.trigger t)
    | none => false

/-- Why it cannot be said whether one of some events matches a trigger.  The first event that
matches settles it. -/
def Evaluator.anyFault? (e : Evaluator) (t : Trigger) : List Event → Option Number.DigitFault
  | [] => none
  | event :: events =>
    match event.expression with
    | none => anyFault? e t events
    | some s =>
      if e.accepts s (.trigger t) then none
      else (e.fault? s (.trigger t)).or (anyFault? e t events)

namespace Workflow

/-- The states that match a trigger, with their places. -/
def statesFor (w : Workflow) (e : Evaluator) (t : Trigger) : List (State × Nat) :=
  (w.eventStates.filter fun s => e.matchesAny s.1 t).map Prod.snd

/-- The triggers that match one of some events, with their places. -/
def triggersFor (w : Workflow) (e : Evaluator) (events : List Event) : List (Trigger × Nat) :=
  w.placedTriggers.filter fun t => e.matchesAny events t.1

/-- Adds items whose names are not there yet. -/
def addNew (acc : List (Trigger × Nat)) (ts : List (Trigger × Nat)) : List (Trigger × Nat) :=
  ts.foldl (fun acc t => if acc.any fun u => u.1.name == t.1.name then acc else acc ++ [t]) acc

/-- The triggers that match a state, in the order of the states, one for each name. -/
def matchedTriggers (w : Workflow) (e : Evaluator) : List (Trigger × Nat) :=
  w.eventStates.foldl (fun acc s => addNew acc (w.triggersFor e s.1)) []

/-- Why the states that match a trigger cannot be told. -/
def statesFault? (w : Workflow) (e : Evaluator) (t : Trigger) : Option Number.DigitFault :=
  w.eventStates.findSome? fun s => e.anyFault? t s.1

/-- Why the triggers that match one of some events cannot be told. -/
def triggersFault? (w : Workflow) (e : Evaluator) (events : List Event) :
    Option Number.DigitFault :=
  w.triggers.findSome? fun t => e.anyFault? t events

/-- Why the triggers that match a state cannot be told. -/
def matchFault? (w : Workflow) (e : Evaluator) : Option Number.DigitFault :=
  w.eventStates.findSome? fun s => w.triggersFault? e s.1

end Workflow
end WorkflowKit
