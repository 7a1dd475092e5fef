/-
# Sessions

What is asked of a manager is a request: an operation, the question whether the workflow is valid,
which validates it, or a plain question.

`Manager.serve` answers a request by a program that reads the manager and assigns to its parts, one
after the other.  A program that fails keeps what it has assigned by then.  That nothing is left
half done is therefore no matter of how programs are put together; that programs fail before they
assign is a property of each of them.
-/

import WorkflowKit.Manager

namespace WorkflowKit
namespace Manager

/-- What may be asked of a manager. -/
inductive Question
  /-- The present workflow. -/
  | workflow
  /-- The workflow of a text, which does not become the present one. -/
  | reading (markup : Text)
  /-- The text of the present workflow. -/
  | text (format : Format)
  /-- The ids that extension records are registered for. -/
  | extensionIds
  /-- The evaluator of a name, or the default. -/
  | evaluator (name : Option Text)
  /-- The default evaluator. -/
  | defaultEvaluator
  /-- The names of the evaluators. -/
  | evaluatorNames
  /-- The flags of the validator. -/
  | flags
  /-- The diagnostics of the last validation. -/
  | diagnostics
  /-- The states that match a trigger. -/
  | statesFor (t : Trigger)
  /-- The triggers that match one of some events. -/
  | triggersFor (events : List Event)
  /-- The triggers that match a state. -/
  | matchedTriggers

/-- What a manager serves. -/
inductive Request
  /-- It carries out an operation. -/
  | operation (op : Operation)
  /-- It validates the workflow and says whether it found nothing. -/
  | isValid
  /-- It answers a question. -/
  | question (q : Question)

/-- What a manager replies. -/
inductive Reply
  /-- An operation has been carried out. -/
  | done
  /-- A workflow, if there is one. -/
  | workflow (w : Option Workflow)
  /-- A text, if there is one. -/
  | text (t : Option Text)
  /-- Names. -/
  | names (ns : List Text)
  /-- An evaluator and its name. -/
  | evaluator (e : Text × Evaluator)
  /-- Flags. -/
  | flags (f : ValidationFlags)
  /-- Diagnostics. -/
  | diagnostics (ds : List Diagnostic)
  /-- Whether something holds. -/
  | verdict (b : Bool)
  /-- States with their places. -/
  | states (ss : List (State × Nat))
  /-- Triggers with their places. -/
  | triggers (ts : List (Trigger × Nat))

/-- Why a request fails. -/
inductive RequestFault
  /-- What is asked for is refused. -/
  | refused (f : OperationFault)
  /-- What matches cannot be told. -/
  | untold (f : Number.DigitFault)

/-- A program that reads and assigns to a manager.  Where it fails, it has assigned what it has. -/
abbrev Program := EStateM RequestFault Manager

/-! ## Questions -/

/-- What there is unless it cannot be told. -/
def unlessUntold (f : Option Number.DigitFault) (r : Reply) : Except RequestFault Reply :=
  match f with
  | some f => .error (.untold f)
  | none => .ok r

/-- The reply to a question. -/
def answer (m : Manager) : Question → Except RequestFault Reply
  | .workflow => .ok (.workflow m.workflow)
  | .reading markup => ((m.read markup).mapError .refused).map fun w => .workflow (some w)
  | .text format => .ok (.text (m.text? format))
  | .extensionIds => .ok (.names m.codec.extensions.ids)
  | .evaluator name => .ok (.evaluator (m.evaluators.get name))
  | .defaultEvaluator => .ok (.evaluator m.evaluators.default)
  | .evaluatorNames => .ok (.names m.evaluators.names)
  | .flags => .ok (.flags m.validator.flags)
  | .diagnostics => .ok (.diagnostics m.diagnostics)
  | .statesFor t => unlessUntold (m.statesFault? t) (.states (m.statesFor t))
  | .triggersFor events => unlessUntold (m.triggersFault? events) (.triggers (m.triggersFor events))
  | .matchedTriggers => unlessUntold m.matchFault? (.triggers m.matchedTriggers)

/-! ## Programs -/

namespace Program

/-- Reads a workflow and takes it. -/
def load (markup : Text) : Program Unit := do
  let w ← ofExcept (((← get).read markup).mapError .refused)
  modify fun m => { m with workflow := some w }

/-- Takes another workflow, or none. -/
def replace (w : Option Workflow) : Program Unit :=
  modify fun m => { m with workflow := w }

/-- Registers the shape of extension records for an id. -/
def registerExtension (id : Text) (type : RecordType) : Program Unit := do
  let r ← ofExcept (((← get).codec.extensions.register id type).mapError fun f =>
    .refused (.registration f))
  modify fun m => { m with codec := { m.codec with extensions := r } }

/-- Registers an evaluator. -/
def register (e : Evaluator) : Program Unit := do
  let r ← ofExcept (((← get).evaluators.register e.name e).mapError fun f =>
    .refused (.evaluator f))
  modify fun m => { m with evaluators := r }

/-- Chooses the default evaluator; an unknown name changes nothing. -/
def setDefault (name : Option Text) : Program Unit :=
  modify fun m => { m with evaluators := m.evaluators.setDefault name }

/-- Registers an evaluator, and then makes it the default. -/
def setEvaluator (e : Evaluator) : Program Unit := do
  register e
  setDefault (some e.name)

/-- Assigns to the validator. -/
def onValidator (f : Validator → Validator) : Program Unit :=
  modify fun m => { m with validator := f m.validator }

/-- Drops the diagnostics. -/
def clear : Program Unit := onValidator fun v => { v with diagnostics := [] }

/-- Adds diagnostics one by one. -/
def addAll (ds : List Diagnostic) : Program Unit := forM ds fun d => onValidator (·.add d)

/-- Drops the diagnostics, and then takes the first flags again. -/
def reset : Program Unit := do
  clear
  onValidator fun v => { v with flags := v.initialFlags }

/-- The first phase of a validation. -/
def checkMarkup : Program Unit := do
  let m ← get
  if m.validator.flags.schema then addAll (Diagnostic.ofMarkup (m.text? .json))

/-- The second phase of a validation. -/
def checkWorkflow : Program Unit := do
  let m ← get
  addAll (Diagnostic.ofWorkflow m.workflow m.validator.flags.strict)

/-- Both phases, if the validator is switched on. -/
def check : Program Unit := do
  if (← get).validator.flags.enabled then do
    checkMarkup
    checkWorkflow

/-- Drops the diagnostics, and then adds what is found. -/
def validate : Program Unit := do
  clear
  check

/-- Carries out an operation. -/
def perform : Operation → Program Unit
  | .load markup => load markup
  | .replace w => replace w
  | .registerExtension id type => registerExtension id type
  | .setEvaluator e => setEvaluator e
  | .setDefaultEvaluator name => setDefault name
  | .setEnabled b => onValidator (·.setEnabled b)
  | .setSchema b => onValidator (·.setSchema b)
  | .setStrict b => onValidator (·.setStrict b)
  | .validate => validate
  | .addDiagnostic d => onValidator (·.add d)
  | .reset => reset

end Program

/-- The reply to an operation that has been carried out: a validation gives what it has found. -/
def replyTo (m : Manager) : Operation → Reply
  | .validate => .diagnostics m.diagnostics
  | _ => .done

/-- Serves a request. -/
def serve : Request → Program Reply
  | .operation op => do
    Program.perform op
    return (← get).replyTo op
  | .isValid => do
    Program.validate
    return .verdict (← get).isClean
  | .question q => do ofExcept ((← get).answer q)

/-! ## Sessions -/

/-- A request that has been served. -/
structure Step where
  /-- The manager before. -/
  before : Manager
  /-- The request. -/
  request : Request
  /-- The reply. -/
  reply : Except RequestFault Reply
  /-- The manager after. -/
  after : Manager

/-- Serves a request, and keeps the manager that is left if it fails. -/
def step (m : Manager) (r : Request) : Step :=
  match (serve r).run m with
  | .ok reply n => ⟨m, r, .ok reply, n⟩
  | .error f n => ⟨m, r, .error f, n⟩

/-- Serves requests one after the other, whether or not some of them fail. -/
def session (m : Manager) : List Request → List Step
  | [] => []
  | r :: rs => m.step r :: (m.step r).after.session rs

/-- The manager after requests. -/
def served (m : Manager) (rs : List Request) : Manager :=
  rs.foldl (fun m r => (m.step r).after) m

end Manager
end WorkflowKit
