/-
# Registries

Things by name, one of which is the default.  Names keep the order of their first registration;
registering a name again replaces the thing.  The default is the very thing that was chosen, also
after its name has been registered again.
-/

import WorkflowKit.Evaluator

namespace WorkflowKit

/-- Things by name, and the default among them with its name. -/
structure Registry (α : Type) where
  /-- Names and things, in order of first registration. -/
  entries : List (Text × α)
  /-- The default. -/
  default : Text × α

/-- Why a registry cannot be made or changed. -/
inductive RegistryFault
  /-- A name is empty. -/
  | noName
  /-- There is nothing to choose a default from. -/
  | noEntry
  deriving DecidableEq, Repr

/-- The wording of a fault of a registry of evaluators. -/
def RegistryFault.message : RegistryFault → String
  | noName => "Expression evaluator must have a name"
  | noEntry => "At least one expression evaluator is required"

namespace Registry

variable {α : Type}

/-- Puts a thing under a name. -/
def putNamed (entries : List (Text × α)) (e : Text × α) :
    Except RegistryFault (List (Text × α)) :=
  if e.1.isEmpty then .error .noName else .ok (putEntry e.1 e.2 entries)

/-- A registry of named things.  The first is the default, if no other name of theirs is given. -/
def ofList (es : List (Text × α)) (default : Option Text) :
    Except RegistryFault (Registry α) := do
  let entries ← es.foldlM putNamed []
  match entries with
  | [] => .error .noEntry
  | first :: _ =>
    .ok ⟨entries, (default.bind fun name => entries.find? fun e => e.1 == name).getD first⟩

/-- Registers a thing under a name. -/
def register (r : Registry α) (name : Text) (a : α) : Except RegistryFault (Registry α) := do
  .ok { r with entries := ← putNamed r.entries (name, a) }

/-- The thing of a name and its name, or the default. -/
def get (r : Registry α) (name : Option Text) : Text × α :=
  (name.bind fun n => r.entries.find? fun e => e.1 == n).getD r.default

/-- Chooses the default; an unknown name changes nothing. -/
def setDefault (r : Registry α) (name : Option Text) : Registry α :=
  match name.bind fun n => r.entries.find? fun e => e.1 == n with
  | some e => { r with default := e }
  | none => r

/-- The names. -/
def names (r : Registry α) : List Text := r.entries.map Prod.fst

/-- Whether there is a thing of a name. -/
def contains (r : Registry α) (name : Text) : Bool := r.names.contains name

end Registry

/-- The registry of the evaluators that are there from the start. -/
def Evaluator.standard (default : Text) : Except RegistryFault (Registry Evaluator) :=
  Registry.ofList [(forAttributes.name, forAttributes), (forName.name, forName)] (some default)

end WorkflowKit
