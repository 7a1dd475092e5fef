/-
# Flaws of a workflow

A workflow that was read without faults may still make no sense: names may be missing or occur
twice, a state may lead nowhere, and there may be no start or several.  The flaws are listed in a
fixed order: those of the whole, those of the states, those of the ends (only on request), those
of the triggers.

A name is blank if it is missing, empty, or consists of blanks; a blank name is a flaw of its own
and never counts as a repetition.
-/

import WorkflowKit.Text.Blank
import WorkflowKit.Workflow

namespace WorkflowKit

/-- What makes no sense in a workflow. -/
inductive Flaw
  /-- The workflow has no name. -/
  | unnamedWorkflow
  /-- There are no states. -/
  | noStates
  /-- A state has no name. -/
  | unnamedState
  /-- A state has the name of an earlier one. -/
  | repeatedState (name : Text)
  /-- A state does not say which state follows. -/
  | noNextState
  /-- A switch has no fallback. -/
  | noFallback
  /-- No state is marked as a start. -/
  | noStart
  /-- Several states are marked as starts. -/
  | manyStarts
  /-- No state ends the workflow. -/
  | noFinish
  /-- Several states end the workflow. -/
  | manyFinishes
  /-- A trigger has no name. -/
  | unnamedTrigger
  /-- A trigger has the name of an earlier one. -/
  | repeatedTrigger (name : Text)
  /-- A trigger does not say what tells its events apart. -/
  | noCorrelationToken
  deriving DecidableEq, Repr

namespace Flaw

/-- The wording of a flaw. -/
def message : Flaw → Text
  | unnamedWorkflow => "Workflow name should not be empty"
  | noStates => "No states found."
  | unnamedState => "Name should not be empty."
  | repeatedState s => Text.ofString "State does not have a unique name: " ++ s
  | noNextState => "Next state should not be empty."
  | noFallback => "Default should not be empty."
  | noStart => "No start state found."
  | manyStarts => "Multiple start states found."
  | noFinish => "No end state found."
  | manyFinishes => "Multiple end states found."
  | unnamedTrigger => "Trigger Event has no name"
  | repeatedTrigger s => Text.ofString "Trigger Event does not have unique name: " ++ s
  | noCorrelationToken => "Trigger Event has no correlation token"

/-- Whether a text that may be missing is blank. -/
def isBlank : Option Text → Bool
  | none => true
  | some s => Text.isAllBlank s

/-- The flaw of a text that has to be there. -/
def ofBlank (flaw : Flaw) (s : Option Text) : List Flaw :=
  if isBlank s then [flaw] else []

/-- The flaw of a number of things of which there should be exactly one. -/
def ofCount (none many : Flaw) : Nat → List Flaw
  | 0 => [none]
  | 1 => []
  | _ => [many]

/-- The flaw of a name after the names `seen`. -/
def ofName (unnamed : Flaw) (repeated : Text → Flaw) (seen : List Text) :
    Option Text → List Flaw
  | none => [unnamed]
  | some s =>
    if Text.isAllBlank s then [unnamed]
    else if seen.contains s then [repeated s]
    else []

/-- The flaws of named things in order: that of the name, then the further ones of each. -/
def ofNamed {α : Type} (name : α → Option Text) (unnamed : Flaw) (repeated : Text → Flaw)
    (further : α → List Flaw) (seen : List Text) : List α → List Flaw
  | [] => []
  | a :: as =>
    ofName unnamed repeated seen (name a) ++ further a ++
      ofNamed name unnamed repeated further ((name a).toList ++ seen) as

/-- The flaw of where a state leads. -/
def ofTarget : State → List Flaw
  | .operation _ _ _ next _ => ofBlank noNextState next
  | .delay _ _ next => ofBlank noNextState next
  | .parallel _ _ next => ofBlank noNextState next
  | .switch _ _ fallback => ofBlank noFallback fallback
  | _ => []

/-- The flaws of states. -/
def ofStates (ss : List State) : List Flaw :=
  ofNamed State.name unnamedState repeatedState ofTarget [] ss ++
    ofCount noStart manyStarts (ss.countP State.isStart)

/-- The flaws of the ends. -/
def ofFinishes (ss : List State) : List Flaw :=
  ofCount noFinish manyFinishes (ss.countP fun s => s.kind == .finish)

/-- The flaws of triggers. -/
def ofTriggers (ts : List Trigger) : List Flaw :=
  ofNamed Trigger.name unnamedTrigger repeatedTrigger
    (fun t => ofBlank noCorrelationToken t.correlationToken) [] ts

end Flaw

/-- The flaws of a workflow; those of the ends only if `strict`. -/
def Workflow.flaws (w : Workflow) (strict : Bool) : List Flaw :=
  Flaw.ofBlank .unnamedWorkflow w.name ++ (if w.states.isEmpty then [.noStates] else []) ++
    Flaw.ofStates w.states ++ (if strict then Flaw.ofFinishes w.states else []) ++
    Flaw.ofTriggers w.triggers

end WorkflowKit
