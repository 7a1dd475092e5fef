/-
# Validation

A validator looks at a workflow in two phases.  The first checks the JSON text of its canonical
form against the schema of workflow documents, the second lists its flaws.  Each finding is a
diagnostic.  Three flags say whether anything is done at all, whether the first phase takes place,
and whether the ends count in the second.

The validator remembers the diagnostics of its last run, and nothing else of it.
-/

import WorkflowKit.Json.Reader
import WorkflowKit.Workflow.Flaw
import WorkflowKit.Workflow.Schema

namespace WorkflowKit

/-- The phases of a validation. -/
inductive Phase
  /-- The canonical form is checked against the schema. -/
  | schema
  /-- The workflow is searched for flaws. -/
  | workflow
  deriving DecidableEq, Repr

/-- The word for the diagnostics of a phase. -/
def Phase.word : Phase → String
  | schema => "SCHEMA_VALIDATION"
  | workflow => "WORKFLOW_VALIDATION"

/-- A finding. -/
structure Diagnostic where
  /-- The phase that it belongs to. -/
  phase : Phase
  /-- The wording. -/
  message : Text
  deriving DecidableEq, Repr

/-- What a validator does. -/
structure ValidationFlags where
  /-- Whether it does anything. -/
  enabled : Bool
  /-- Whether the schema is checked. -/
  schema : Bool
  /-- Whether there has to be exactly one end. -/
  strict : Bool
  deriving DecidableEq, Repr

namespace Diagnostic

/-- The diagnostic of a violation of the schema. -/
def ofViolation (v : Schema.Violation) : Diagnostic := ⟨.schema, v.message⟩

/-- The diagnostic of a flaw. -/
def ofFlaw (f : Flaw) : Diagnostic := ⟨.workflow, f.message⟩

/-- The violations of the schema by a JSON text; none if it cannot be read. -/
def violationsOfText (markup : Text) : List Schema.Violation :=
  match Json.read markup with
  | .ok v => Schema.workflowViolations v
  | .error _ => []

/-- The diagnostics of the first phase, for the JSON text of a workflow if it has one. -/
def ofMarkup : Option Text → List Diagnostic
  | some markup => (violationsOfText markup).map ofViolation
  | none => []

/-- The diagnostics of the second phase. -/
def ofWorkflow (w : Option Workflow) (strict : Bool) : List Diagnostic :=
  match w with
  | some w => (w.flaws strict).map ofFlaw
  | none => []

/-- The diagnostics of both phases. -/
def all (flags : ValidationFlags) (markup : Option Text) (w : Option Workflow) :
    List Diagnostic :=
  if flags.enabled then
    (if flags.schema then ofMarkup markup else []) ++ ofWorkflow w flags.strict
  else []

end Diagnostic

/-- A validator. -/
structure Validator where
  /-- The flags that it starts with. -/
  initialFlags : ValidationFlags
  /-- The present flags. -/
  flags : ValidationFlags
  /-- The diagnostics of the last run. -/
  diagnostics : List Diagnostic
  deriving DecidableEq, Repr

namespace Validator

/-- A validator that has not yet run. -/
def ofFlags (flags : ValidationFlags) : Validator := ⟨flags, flags, []⟩

/-- The validator with its first flags and without diagnostics. -/
def reset (v : Validator) : Validator := ofFlags v.initialFlags

/-- The validator after a run. -/
def run (v : Validator) (markup : Option Text) (w : Option Workflow) : Validator :=
  { v with diagnostics := Diagnostic.all v.flags markup w }

/-- The validator with one more diagnostic. -/
def add (v : Validator) (d : Diagnostic) : Validator :=
  { v with diagnostics := v.diagnostics ++ [d] }

/-- The validator switched on or off. -/
def setEnabled (v : Validator) (b : Bool) : Validator :=
  { v with flags := { v.flags with enabled := b } }

/-- The validator with or without the first phase. -/
def setSchema (v : Validator) (b : Bool) : Validator :=
  { v with flags := { v.flags with schema := b } }

/-- The validator with or without the search for ends. -/
def setStrict (v : Validator) (b : Bool) : Validator :=
  { v with flags := { v.flags with strict := b } }

end Validator
end WorkflowKit
