/-
# Managers

A manager owns a workflow together with what is needed to read, write, validate and match it.

What changes a manager is an `Operation`.  `Manager.perform` carries one out or says why it cannot;
a manager whose operation fails stays as it is.  Everything else is a question, which changes
nothing.
-/

import WorkflowKit.Evaluator.Registry
import WorkflowKit.Markup
import WorkflowKit.Settings
import WorkflowKit.Template.Properties
import WorkflowKit.Workflow.Matching

namespace WorkflowKit

/-- A manager. -/
structure Manager where
  /-- The evaluators. -/
  evaluators : Registry Evaluator
  /-- The validator. -/
  validator : Validator
  /-- How workflows are read. -/
  codec : Markup.Codec
  /-- How workflows are written; not every one has a text. -/
  write : Format → Workflow → Option Text
  /-- The present workflow. -/
  workflow : Option Workflow

/-! ## Making a manager -/

/-- What is asked for a part of a manager: it gives the part, or nothing, or fails with a
message. -/
abbrev Provider (α : Type) := Except String (Option α)

/-- The parts of a manager that are asked for. -/
inductive ManagerPart
  /-- The evaluators. -/
  | evaluators
  /-- The validator. -/
  | validator
  deriving DecidableEq, Repr

/-- A part of a manager that cannot be had, and why. -/
structure BootstrapFault where
  /-- The part. -/
  part : ManagerPart
  /-- Why it cannot be had. -/
  reason : String
  deriving DecidableEq, Repr

/-- What a part is called. -/
def ManagerPart.text : ManagerPart → String
  | evaluators => "expression evaluator registry"
  | validator => "workflow validator"

/-- The wording of a part that cannot be had. -/
def BootstrapFault.message (f : BootstrapFault) : String :=
  "Unable to resolve " ++ f.part.text ++ ": " ++ f.reason

/-- What a provider gives. -/
def Provider.get {α : Type} (p : Provider α) (part : ManagerPart) : Except BootstrapFault α :=
  match p with
  | .ok (some a) => .ok a
  | .ok none => .error ⟨part, "provider returned None"⟩
  | .error reason => .error ⟨part, reason⟩

/-- What is around a manager while it is made. -/
structure Surroundings where
  /-- The environment variables. -/
  env : List (String × String)
  /-- The text of the file at a path, if there is one. -/
  file : Text → Option String

/-- The providers of a manager. -/
structure Providers where
  /-- That of the evaluators. -/
  evaluators : Provider (Registry Evaluator)
  /-- That of the validator. -/
  validator : Provider Validator

/-- The providers that are used unless others are given. -/
def Providers.standard (settings : Settings) : Providers where
  evaluators := ((Evaluator.standard settings.evaluator).map some).mapError RegistryFault.message
  validator := .ok (some (Validator.ofFlags settings.validation))

/-- The environment variables that placeholders may refer to. -/
def Settings.placeholderVariables (s : Settings) (env : List (String × String)) :
    List (String × String) :=
  distinctEntries ((s.propertyVariables.filterMap Text.toString?).filterMap fun n =>
    (lookup? n env).map fun v => (n, v))

/-- The properties of the file that the settings name; a file that does not exist has none. -/
def Settings.fileProperties? (s : Settings) (around : Surroundings) :
    Option (List (String × Value)) :=
  s.propertyFile.map fun path =>
    ((around.file path).elim [] Template.propertiesOfFile).map fun e => (e.1, .text e.2)

/-- What placeholders are replaced by: the given properties or else those of the file, and the
variables.  Without properties and variables placeholders stay. -/
def Settings.resolver? (s : Settings) (properties : Option (List (String × Value)))
    (around : Surroundings) : Option Template.Resolver :=
  let env := s.placeholderVariables around.env
  match properties.or (s.fileProperties? around) with
  | some ps => some ⟨ps, env, false⟩
  | none => if env.isEmpty then none else some ⟨[], env, false⟩

namespace Manager

/-- A manager without a workflow. -/
def make (settings : Settings) (providers : Providers)
    (properties : Option (List (String × Value))) (around : Surroundings) :
    Except BootstrapFault Manager := do
  let evaluators ← providers.evaluators.get .evaluators
  let validator ← providers.validator.get .validator
  .ok {
    evaluators, validator
    codec := ⟨.empty, settings.resolver? properties around⟩
    write := fun format w => (Markup.encode format w).toOption
    workflow := none }

end Manager

/-! ## Operations -/

/-- What changes a manager. -/
inductive Operation
  /-- Reads a workflow. -/
  | load (markup : Text)
  /-- Takes another workflow, or none. -/
  | replace (w : Option Workflow)
  /-- Registers the shape of extension records for an id. -/
  | registerExtension (id : Text) (type : RecordType)
  /-- Registers an evaluator and makes it the default. -/
  | setEvaluator (e : Evaluator)
  /-- Chooses the default evaluator; an unknown name changes nothing. -/
  | setDefaultEvaluator (name : Option Text)
  /-- Switches the validator on or off. -/
  | setEnabled (b : Bool)
  /-- Validates with or without the schema. -/
  | setSchema (b : Bool)
  /-- Validates with or without the search for ends. -/
  | setStrict (b : Bool)
  /-- Validates the workflow. -/
  | validate
  /-- Adds a diagnostic. -/
  | addDiagnostic (d : Diagnostic)
  /-- Drops the diagnostics and takes the first flags again. -/
  | reset

/-- Why an operation fails. -/
inductive OperationFault
  /-- Reading ended at once. -/
  | interrupted (i : Markup.Interruption)
  /-- The markup is no workflow in any format. -/
  | refused (fs : List (Format × Markup.AttemptFault))
  /-- The registration of a shape is refused. -/
  | registration (f : RegistrationFault)
  /-- The registration of an evaluator is refused. -/
  | evaluator (f : RegistryFault)

namespace Manager

/-- The workflow of a text; the manager keeps the one that it has. -/
def read (m : Manager) (markup : Text) : Except OperationFault Workflow :=
  match m.codec.decodeBounded markup with
  | .ok (.ok w) => .ok w
  | .ok (.error fs) => .error (.refused fs)
  | .error i => .error (.interrupted i)

/-- The text of the workflow, if it has one. -/
def text? (m : Manager) (format : Format) : Option Text :=
  m.workflow.bind (m.write format)

/-- The default evaluator. -/
def evaluator (m : Manager) : Evaluator := m.evaluators.default.2

/-- Carries out an operation. -/
def perform (m : Manager) : Operation → Except OperationFault Manager
  | .load markup => do .ok { m with workflow := some (← m.read markup) }
  | .replace w => .ok { m with workflow := w }
  | .registerExtension id type =>
    match m.codec.extensions.register id type with
    | .ok r => .ok { m with codec := { m.codec with extensions := r } }
    | .error f => .error (.registration f)
  | .setEvaluator e =>
    match m.evaluators.register e.name e with
    | .ok r => .ok { m with evaluators := r.setDefault (some e.name) }
    | .error f => .error (.evaluator f)
  | .setDefaultEvaluator name => .ok { m with evaluators := m.evaluators.setDefault name }
  | .setEnabled b => .ok { m with validator := m.validator.setEnabled b }
  | .setSchema b => .ok { m with validator := m.validator.setSchema b }
  | .setStrict b => .ok { m with validator := m.validator.setStrict b }
  | .validate => .ok { m with validator := m.validator.run (m.text? .json) m.workflow }
  | .addDiagnostic d => .ok { m with validator := m.validator.add d }
  | .reset => .ok { m with validator := m.validator.reset }

/-- The manager after an operation: as it was if the operation fails. -/
def after (m : Manager) (op : Operation) : Manager :=
  match m.perform op with
  | .ok m => m
  | .error _ => m

/-- The manager after operations. -/
def run (m : Manager) (ops : List Operation) : Manager := ops.foldl after m

/-! ## Questions -/

/-- The diagnostics of the last validation. -/
def diagnostics (m : Manager) : List Diagnostic := m.validator.diagnostics

/-- Whether the last validation has found nothing. -/
def isClean (m : Manager) : Bool := m.diagnostics.isEmpty

/-- The states that match a trigger. -/
def statesFor (m : Manager) (t : Trigger) : List (State × Nat) :=
  m.workflow.elim [] fun w => w.statesFor m.evaluator t

/-- The triggers that match one of some events. -/
def triggersFor (m : Manager) (events : List Event) : List (Trigger × Nat) :=
  m.workflow.elim [] fun w => w.triggersFor m.evaluator events

/-- The triggers that match a state. -/
def matchedTriggers (m : Manager) : List (Trigger × Nat) :=
  m.workflow.elim [] fun w => w.matchedTriggers m.evaluator

/-- Why the states that match a trigger cannot be told. -/
def statesFault? (m : Manager) (t : Trigger) : Option Number.DigitFault :=
  m.workflow.bind fun w => w.statesFault? m.evaluator t

/-- Why the triggers that match one of some events cannot be told. -/
def triggersFault? (m : Manager) (events : List Event) : Option Number.DigitFault :=
  m.workflow.bind fun w => w.triggersFault? m.evaluator events

/-- Why the triggers that match a state cannot be told. -/
def matchFault? (m : Manager) : Option Number.DigitFault :=
  m.workflow.bind fun w => w.matchFault? m.evaluator

end Manager
end WorkflowKit
