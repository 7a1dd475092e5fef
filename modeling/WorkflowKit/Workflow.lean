/-
# Workflows

A workflow is a list of states with the definitions of the triggers it reacts to.  Seven kinds of
states:

| kind | meaning |
| --- | --- |
| `event` | waits for a trigger that matches one of its event expressions |
| `operation` | performs actions |
| `switch` | picks the next state by its choices |
| `delay` | waits for a fixed time |
| `parallel` | runs branches of states |
| `finish` | ends the workflow with a status |
| `subflow` | starts another workflow |

A workflow also carries metadata and extension records, whose shapes are not fixed here: see
`WorkflowKit.Extension`.
-/

import WorkflowKit.Text.Map

namespace WorkflowKit

/-- An external event that a workflow can react to. -/
structure Trigger where
  /-- The name. -/
  name : Option Text
  /-- Where the event comes from. -/
  source : Option Text
  /-- The type of the event. -/
  type : Option Text
  /-- What tells instances of the event apart. -/
  correlationToken : Option Text
  deriving DecidableEq, Repr, Inhabited

/-- A reference to a function. -/
structure Function where
  /-- The name. -/
  name : Option Text
  /-- The type. -/
  type : Option Text
  /-- The parameters, in order. -/
  parameters : TextMap
  deriving DecidableEq, Repr, Inhabited

/-- How often an action is tried again. -/
structure Retry where
  /-- Which errors it applies to. -/
  condition : Option Text
  /-- The greatest number of further tries. -/
  maxRetry : Option Int
  /-- Seconds between two tries. -/
  retryInterval : Option Int
  /-- The state after the last try. -/
  nextState : Option Text
  deriving DecidableEq, Repr, Inhabited

/-- The call of a function. -/
structure Action where
  /-- The function. -/
  function : Option Function
  /-- A time limit in seconds. -/
  timeout : Option Int
  /-- How often the call is tried again. -/
  retry : Option Retry
  deriving DecidableEq, Repr, Inhabited

/-- The data paths of an operation. -/
structure Filter where
  /-- Path of the input. -/
  inputPath : Option Text
  /-- Path of the result. -/
  resultPath : Option Text
  /-- Path of the output. -/
  outputPath : Option Text
  deriving DecidableEq, Repr, Inhabited

/-- How several actions are performed. -/
inductive ActionMode
  /-- One after the other. -/
  | sequential
  /-- All at once. -/
  | parallel
  deriving DecidableEq, Repr, Inhabited

/-- How a workflow has ended. -/
inductive EndStatus
  /-- It has reached its aim. -/
  | success
  /-- It has failed. -/
  | failure
  deriving DecidableEq, Repr, Inhabited

/-- The comparison of a choice. -/
inductive Operator
  /-- Equal. -/
  | eq
  /-- Less. -/
  | lt
  /-- Less or equal. -/
  | lteq
  /-- Greater. -/
  | gt
  /-- Greater or equal. -/
  | gteq
  deriving DecidableEq, Repr, Inhabited

/-- The kinds of states. -/
inductive StateKind
  /-- Waits for triggers. -/
  | event
  /-- Performs actions. -/
  | operation
  /-- Picks the next state. -/
  | switch
  /-- Waits. -/
  | delay
  /-- Runs branches. -/
  | parallel
  /-- Ends the workflow. -/
  | finish
  /-- Starts another workflow. -/
  | subflow
  deriving DecidableEq, Repr, Inhabited

/-- The kinds of choices. -/
inductive ChoiceKind
  /-- One comparison. -/
  | single
  /-- All of some comparisons. -/
  | all
  /-- At least one of some comparisons. -/
  | any
  /-- The opposite of a comparison. -/
  | none
  deriving DecidableEq, Repr, Inhabited

/-- An event condition and the actions that follow. -/
structure Event where
  /-- The condition, evaluated for a trigger. -/
  expression : Option Text
  /-- The next state. -/
  nextState : Option Text
  /-- How the actions are performed. -/
  actionMode : ActionMode
  /-- A time limit in seconds. -/
  timeout : Option Int
  /-- The actions. -/
  actions : List Action
  deriving DecidableEq, Repr, Inhabited

/-- One comparison of a switch. -/
structure SingleChoice where
  /-- The path of the value that is compared. -/
  path : Option Text
  /-- The value that it is compared with. -/
  value : Option Text
  /-- The comparison. -/
  operator : Option Operator
  /-- The next state. -/
  nextState : Option Text
  deriving DecidableEq, Repr, Inhabited

/-- A choice of a switch. -/
inductive Choice
  /-- One comparison. -/
  | single (c : SingleChoice)
  /-- All of some comparisons. -/
  | all (cs : List SingleChoice) (nextState : Option Text)
  /-- At least one of some comparisons. -/
  | any (cs : List SingleChoice) (nextState : Option Text)
  /-- The opposite of a comparison. -/
  | none (c : Option SingleChoice) (nextState : Option Text)
  deriving DecidableEq, Repr, Inhabited

/-- What all kinds of states have. -/
structure StateHead where
  /-- The name. -/
  name : Option Text
  /-- Whether the workflow starts here. -/
  start : Bool
  /-- Whether the workflow may end here. -/
  final : Bool
  deriving DecidableEq, Repr, Inhabited

/-- A state of no particular kind: only what all kinds have. -/
structure BareState where
  /-- What all kinds of states have. -/
  head : StateHead
  /-- The kind. -/
  kind : StateKind
  deriving DecidableEq, Repr, Inhabited

mutual

/-- A state of a workflow. -/
inductive State
  /-- Waits for triggers. -/
  | event (head : StateHead) (events : List Event)
  /-- Performs actions. -/
  | operation (head : StateHead) (mode : ActionMode) (actions : List Action)
    (nextState : Option Text) (filter : Option Filter)
  /-- Picks the next state by its choices, or else the fallback. -/
  | switch (head : StateHead) (choices : List Choice) (fallback : Option Text)
  /-- Waits for some seconds. -/
  | delay (head : StateHead) (seconds : Option Int) (nextState : Option Text)
  /-- Runs branches. -/
  | parallel (head : StateHead) (branches : List Branch) (nextState : Option Text)
  /-- Ends the workflow. -/
  | finish (head : StateHead) (status : EndStatus)
  /-- Starts another workflow. -/
  | subflow (head : StateHead) (workflowId version : Option Text) (waits : Bool)
  deriving Repr

/-- A sequence of states that a parallel state runs. -/
inductive Branch
  /-- A branch with its name, its states, and whether the workflow waits for it. -/
  | mk (name : Option Text) (states : List State) (waits : Bool)
  deriving Repr

end

namespace State

instance : Inhabited State := ⟨.event ⟨none, false, false⟩ []⟩

/-- What all kinds of states have. -/
def head : State → StateHead
  | event h _ => h
  | operation h _ _ _ _ => h
  | switch h _ _ => h
  | delay h _ _ => h
  | parallel h _ _ => h
  | finish h _ => h
  | subflow h _ _ _ => h

/-- The kind of a state. -/
def kind : State → StateKind
  | event .. => .event
  | operation .. => .operation
  | switch .. => .switch
  | delay .. => .delay
  | parallel .. => .parallel
  | finish .. => .finish
  | subflow .. => .subflow

/-- The name of a state. -/
def name (s : State) : Option Text := s.head.name

/-- Whether the workflow starts with a state. -/
def isStart (s : State) : Bool := s.head.start

/-- Whether the workflow may end with a state. -/
def isFinal (s : State) : Bool := s.head.final

/-- The events of a state that waits for triggers. -/
def events? : State → Option (List Event)
  | event _ es => some es
  | _ => none

mutual

/-- Whether two states are equal. -/
def same : State → State → Bool
  | event h es, event h' es' => h == h' && es == es'
  | operation h m as n f, operation h' m' as' n' f' =>
    h == h' && m == m' && as == as' && n == n' && f == f'
  | switch h cs d, switch h' cs' d' => h == h' && cs == cs' && d == d'
  | delay h t n, delay h' t' n' => h == h' && t == t' && n == n'
  | parallel h bs n, parallel h' bs' n' => h == h' && sameBranches bs bs' && n == n'
  | finish h s, finish h' s' => h == h' && s == s'
  | subflow h i v w, subflow h' i' v' w' => h == h' && i == i' && v == v' && w == w'
  | _, _ => false

/-- Whether two branches are equal. -/
def sameBranch : Branch → Branch → Bool
  | .mk n ss w, .mk n' ss' w' => n == n' && sameList ss ss' && w == w'

/-- Whether two lists of states are equal. -/
def sameList : List State → List State → Bool
  | [], [] => true
  | s :: ss, s' :: ss' => same s s' && sameList ss ss'
  | _, _ => false

/-- Whether two lists of branches are equal. -/
def sameBranches : List Branch → List Branch → Bool
  | [], [] => true
  | b :: bs, b' :: bs' => sameBranch b b' && sameBranches bs bs'
  | _, _ => false

end

end State

/-- A field of an extension record. -/
inductive ExtensionValue
  /-- A text. -/
  | text (s : Text)
  /-- An integer. -/
  | int (n : Int)
  /-- A text that may be missing. -/
  | optionalText (s : Option Text)
  /-- A mapping to texts. -/
  | texts (m : TextMap)
  /-- A list of texts. -/
  | items (ss : List Text)
  /-- Data paths that may be missing. -/
  | filter (f : Option Filter)
  deriving DecidableEq, Repr, Inhabited

/-- A record attached to a workflow. -/
structure Extension where
  /-- The name of its shape. -/
  shape : String
  /-- The id under which the shape is registered. -/
  id : Text
  /-- The further fields, in the order of the shape. -/
  fields : List (String × ExtensionValue)
  deriving DecidableEq, Repr, Inhabited

/-- A workflow. -/
structure Workflow where
  /-- The id. -/
  id : Option Text
  /-- The name. -/
  name : Option Text
  /-- The version. -/
  version : Option Text
  /-- The name of the state that it starts with. -/
  startsAt : Option Text
  /-- The triggers that it reacts to. -/
  triggers : List Trigger
  /-- The states. -/
  states : List State
  /-- Notes, in order. -/
  metadata : TextMap
  /-- The extension records. -/
  extensions : List Extension
  deriving Repr, Inhabited

/-- Whether two workflows are equal. -/
def Workflow.same (v w : Workflow) : Bool :=
  v.id == w.id && v.name == w.name && v.version == w.version && v.startsAt == w.startsAt &&
    v.triggers == w.triggers && State.sameList v.states w.states && v.metadata == w.metadata &&
    v.extensions == w.extensions

end WorkflowKit
