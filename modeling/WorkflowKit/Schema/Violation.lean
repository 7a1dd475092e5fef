/-
# Violations of a schema

Checking a value against a schema does not stop at the first rule that is not met: it lists all of
them in the order of the clauses and rules, each with the path of the part that does not meet it.

The check of a value is made from the checks of its parts, each of which is a function from
schemas to violations.  So it follows the value, however the schemas refer to each other.
-/

import WorkflowKit.Decode.Fault
import WorkflowKit.Schema

namespace WorkflowKit
namespace Schema

open Decode (Step)

/-- A rule that is not met. -/
structure Violation where
  /-- Where the part is that does not meet the rule. -/
  path : List Step
  /-- What is wrong with the part. -/
  text : String
  /-- The notice of the clause. -/
  notice : Option String
  deriving DecidableEq, Repr

/-- A step of a path as it is written. -/
def stepText : Step → String
  | .key s => s
  | .index n => toString n

/-- A path as it is written, from the whole value on. -/
def pathText (path : List Step) : String :=
  "#" ++ String.join (path.map fun s => "/" ++ stepText s)

/-- The wording of a violation: the notice, if there is one. -/
def Violation.message (v : Violation) : String :=
  v.notice.getD (pathText v.path ++ ": " ++ v.text)

/-- A violation seen from one step further out. -/
def Violation.under (step : Step) (v : Violation) : Violation :=
  { v with path := step :: v.path }

/-- The check of a value: the violations of a schema. -/
abbrev Check (N : Type) := Schema N → List Violation

/-- The checks of the parts of a value. -/
structure Parts (N : Type) where
  /-- Those of the items of a list. -/
  items : List (Check N)
  /-- Those of the values of a mapping, by their keys. -/
  entries : List (Text × Check N)

variable {N : Type}

/-- The violations in a part, seen from the whole. -/
def inPart (define : N → Schema N) (step : Step) (check : Check N) (t : Target N) :
    List Violation :=
  (check (t.schema define)).map (Violation.under step)

/-- What is wrong with a value by one rule that concerns the value itself. -/
def faultTexts (v : Value) : Rule N → List String
  | .kind k =>
    if k.admits v then []
    else [v.display ++ " is not of type \x27" ++ k.word ++ "\x27"]
  | .required keys =>
    match v with
    | .map es =>
      (keys.filter fun k => (lookup? (.ofString k) es).isNone).map fun k : String =>
        quotedText k ++ " is a required property"
    | _ => []
  | .oneOf words =>
    if words.any fun w => (Literal.text w).admits v then []
    else
      let listed := Value.list (words.map fun w : String => .text w)
      [v.display ++ " is not one of " ++ listed.display]
  | .fixed l => if l.admits v then [] else [l.value.display ++ " was expected"]
  | .atLeast n =>
    if isBelow n v then
      [v.display ++ " is less than the minimum of " ++ (Value.int n).display]
    else []
  | _ => []

/-- Whether some item of a list meets a schema; a value that is no list need not. -/
def hasItem (define : N → Schema N) (v : Value) (parts : Parts N) (t : Target N) : Bool :=
  match v with
  | .list _ => parts.items.any fun check => (check (t.schema define)).isEmpty
  | _ => true

/-- The violations of one rule in the parts of a value. -/
def partViolations (define : N → Schema N) (parts : Parts N) : Rule N → List Violation
  | .fields fs => fs.flatMap fun f =>
    match lookup? (.ofString f.1) parts.entries with
    | some check => inPart define (.key f.1) check f.2
    | none => []
  | .everyField t => parts.entries.flatMap fun e => inPart define (.key e.1.lossy) e.2 t
  | .items t => parts.items.zipIdx.flatMap fun e => inPart define (.index e.2) e.1 t
  | _ => []

/-- The violations of one rule. -/
def ruleViolations (define : N → Schema N) (v : Value) (parts : Parts N)
    (notice : Option String) : Rule N → List Violation
  | .holds t =>
    if hasItem define v parts t then []
    else [⟨[], "None of " ++ v.display ++ " are valid under the given schema", notice⟩]
  | r =>
    (faultTexts v r).map (fun text => ⟨[], text, notice⟩) ++ partViolations define parts r

/-- The check of a value by those of its parts. -/
def checkWith (define : N → Schema N) (v : Value) (parts : Parts N) : Check N := fun s =>
  s.clauses.flatMap fun c => c.rules.flatMap (ruleViolations define v parts c.notice)

mutual

/-- The violations of a schema by a value. -/
def violations (define : N → Schema N) : Value → Check N
  | .list vs => checkWith define (.list vs) ⟨itemChecks define vs, []⟩
  | .map es => checkWith define (.map es) ⟨[], entryChecks define es⟩
  | .null => checkWith define .null ⟨[], []⟩
  | .bool b => checkWith define (.bool b) ⟨[], []⟩
  | .int n => checkWith define (.int n) ⟨[], []⟩
  | .float x => checkWith define (.float x) ⟨[], []⟩
  | .text s => checkWith define (.text s) ⟨[], []⟩

/-- The checks of the items of a list. -/
def itemChecks (define : N → Schema N) : List Value → List (Check N)
  | [] => []
  | v :: vs => violations define v :: itemChecks define vs

/-- The checks of the values of a mapping. -/
def entryChecks (define : N → Schema N) : List (Text × Value) → List (Text × Check N)
  | [] => []
  | (k, v) :: es => (k, violations define v) :: entryChecks define es

end

end Schema
end WorkflowKit
