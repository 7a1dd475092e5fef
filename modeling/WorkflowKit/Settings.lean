/-
# Settings

Settings come from arguments, from environment variables, and from defaults, in this order of
precedence.  The variable of a setting is its name after `WORKFLOW_`; case does not matter, and of
several variables that differ in case only the last counts.

Two settings are groups.  The members of a group have variables of their own, after
`WORKFLOW_EVALUATOR_` and `WORKFLOW_VALIDATION_`.  The variable of a whole group, and that of the
list of variables for placeholders, hold JSON.  A member that is given with its group beats the
variable of the member.

Unknown arguments are ignored, unknown members of a group are not.
-/

import WorkflowKit.Decode.Record
import WorkflowKit.Json.Reader
import WorkflowKit.Text.Case
import WorkflowKit.Text.FilePath
import WorkflowKit.Validation

namespace WorkflowKit

open Decode (Checked Decoder Fields same withDefault)

/-- Where the program runs. -/
inductive Environment
  /-- With its developers. -/
  | dev
  /-- Under test. -/
  | test
  /-- With its users. -/
  | prod
  deriving DecidableEq, Repr

/-- The word for an environment. -/
def Environment.text : Environment → String
  | dev => "dev"
  | test => "test"
  | prod => "prod"

/-- The environments. -/
def Environment.all : List Environment := [.dev, .test, .prod]

/-- The settings. -/
structure Settings where
  /-- The name of the program. -/
  appName : Text
  /-- Where the program runs. -/
  environment : Environment
  /-- Whether the program is being debugged. -/
  debug : Bool
  /-- The name of the level of messages. -/
  logLevel : Text
  /-- The path of a file of properties. -/
  propertyFile : Option Text
  /-- The environment variables that placeholders may refer to. -/
  propertyVariables : List Text
  /-- The name of the default evaluator. -/
  evaluator : Text
  /-- What validators do from the start. -/
  validation : ValidationFlags
  deriving DecidableEq, Repr

/-- Why there are no settings. -/
inductive SettingsFault
  /-- The variable of a setting holds no JSON. -/
  | unparsable (name : String)
  /-- The environment is given by no text, but by something of this kind. -/
  | notText (kindName : String)
  /-- Values do not fit. -/
  | faults (fs : List Decode.Fault)
  deriving DecidableEq, Repr

/-- The wording of a variable that holds no JSON. -/
def SettingsFault.unparsableMessage (name : String) : String :=
  "error parsing value for field \x22" ++ name ++ "\x22 from source \x22EnvSettingsSource\x22"

/-- The wording of an environment that is given by no text. -/
def SettingsFault.notTextMessage (kindName : String) : String :=
  "\x27" ++ kindName ++ "\x27 object has no attribute \x27lower\x27"

namespace Settings

/-! ## Variables -/

/-- The variable of a name, whatever its case. -/
def variableNamed? (env : List (String × String)) (name : String) : Option String :=
  (env.reverse.find? fun e => Text.lower e.1 == Text.lower name).map Prod.snd

/-- The values that variables give for plain names. -/
def plainValues (env : List (String × String)) (start : String) (names : List String) :
    List (String × Value) :=
  names.filterMap fun n => (variableNamed? env (start ++ n)).map fun s => (n, .text s)

/-- The settings that have plain variables. -/
def plainNames : List String := ["app_name", "environment", "debug", "log_level", "property_file"]

/-- The members of the group `evaluator`. -/
def evaluatorMembers : List String := ["default"]

/-- The members of the group `validation`. -/
def validationMembers : List String := ["enabled", "schema_enabled", "strict"]

/-- The settings whose variables hold JSON, with their members. -/
def structured : List (String × List String) :=
  [("property_env_vars", []), ("evaluator", evaluatorMembers), ("validation", validationMembers)]

/-- A value with its members called as the group calls them, whatever their case. -/
def recased (members : List String) : Value → Value
  | .map es => .map (distinctEntries (es.map fun e =>
      (((members.map Text.ofString).find? fun m => m == e.1.lower).getD e.1, e.2)))
  | v => v

/-- The values that variables give for structured settings; nothing is given by `null`. -/
def structuredValues (env : List (String × String)) :
    List (String × List String) → Except SettingsFault (List (String × Value))
  | [] => .ok []
  | (name, members) :: rest =>
    match variableNamed? env ("WORKFLOW_" ++ name) with
    | none => structuredValues env rest
    | some s =>
      match Json.read s with
      | .error _ => .error (.unparsable name)
      | .ok .null => structuredValues env rest
      | .ok v => do .ok ((name, recased members v) :: (← structuredValues env rest))

/-- A value over another one: the entries of two mappings come together. -/
def merged (upper lower : Value) : Value :=
  match upper, lower with
  | .map es, .map fs => .map (es.foldl (fun acc e => putEntry e.1 e.2 acc) fs)
  | v, _ => v

/-- Entries over others. -/
def overlay (upper lower : List (String × Value)) : List (String × Value) :=
  upper.foldl (fun acc e =>
    putEntry e.1 (match lookup? e.1 acc with
      | some v => merged e.2 v
      | none => e.2) acc) lower

/-! ## Reading -/

/-- Entries as those of a document. -/
def entriesToDoc (es : List (String × Value)) : List (Scalar × Doc) :=
  es.map fun e => (.text e.1, e.2.toDoc)

/-- An environment, by its word in any case. -/
def environmentWord : Decoder Environment := fun d =>
  match d.unmarked with
  | .scalar (.text s) =>
    match named? Environment.text Environment.all s.lower with
    | some e => .ok e
    | none => .fail (.rule (quotedText s.lower ++ " is not a valid Environment"))
  | _ => .fail .notText

/-- The path of a file. -/
def path : Decoder Text := fun d =>
  match d.unmarked with
  | .scalar (.text s) => .ok (Text.normalPath s)
  | _ => .fail .notPath

/-- What a validator does unless it is told otherwise. -/
def standardFlags : ValidationFlags := ⟨true, true, false⟩

/-- The fields of the group `validation`. -/
def validationFields : Fields ValidationFlags :=
  ValidationFlags.mk
    <$> withDefault (same "enabled") standardFlags.enabled Decode.truth
    <*> withDefault (same "schema_enabled") standardFlags.schema Decode.truth
    <*> withDefault (same "strict") standardFlags.strict Decode.truth

/-- The fields of the group `evaluator`. -/
def evaluatorFields : Fields Text :=
  withDefault (same "default") "attribute" Decode.plainText

/-- A group whose members are also given by variables. -/
def group {α : Type} (typeName : String) (fields : Fields α)
    (given : List (String × Value)) : Decoder α := fun d =>
  match d.unmarked with
  | .map es =>
    let others := given.filter fun v => (Doc.field? v.1 es).isNone
    Decode.ofEntries fields (es ++ entriesToDoc others)
  | _ => .fail (.notRecord typeName)

/-- The group `validation`. -/
def validationGroup (env : List (String × String)) : Decoder ValidationFlags :=
  group "ValidationSettings" validationFields
    (plainValues env "WORKFLOW_VALIDATION_" validationMembers)

/-- The group `evaluator`. -/
def evaluatorGroup (env : List (String × String)) : Decoder Text :=
  group "EvaluatorSettings" evaluatorFields
    (plainValues env "WORKFLOW_EVALUATOR_" evaluatorMembers)

/-- The document of a group of which no member is given. -/
def noMembers : Doc := .map []

/-- The fields of the settings, with the two groups as they are without arguments. -/
def fields (env : List (String × String)) (evaluator : Text) (validation : ValidationFlags) :
    Fields Settings :=
  Settings.mk
    <$> withDefault (same "app_name") "Workflow Definition Toolkit" Decode.plainText
    <*> withDefault (same "environment") .dev environmentWord
    <*> withDefault (same "debug") false Decode.truth
    <*> withDefault (same "log_level") "INFO" Decode.plainText
    <*> Decode.maybe (same "property_file") path
    <*> withDefault (same "property_env_vars") [] (Decode.list Decode.plainText)
    <*> withDefault (same "evaluator") evaluator (evaluatorGroup env)
    <*> withDefault (same "validation") validation (validationGroup env)

/-- The kind of an environment that is given by no text. -/
def oddEnvironment? (es : List (String × Value)) : Option String :=
  match lookup? "environment" es with
  | none | some (.text _) => none
  | some v => some v.toDoc.kindName

/-- A group that is not given at all: its faults are those of its members alone, and they are the
only ones that are reported. -/
def alone {α : Type} (es : List (String × Value)) (name : String) (g : Decoder α) (fallback : α) :
    Except SettingsFault α :=
  match lookup? name es with
  | some _ => .ok fallback
  | none => (g noMembers).mapError .faults

/-- The settings by arguments and environment variables. -/
def load (arguments : List (String × Value)) (env : List (String × String)) :
    Except SettingsFault Settings := do
  let given := overlay arguments
    (plainValues env "WORKFLOW_" plainNames ++ (← structuredValues env structured))
  match oddEnvironment? given with
  | some kind => .error (.notText kind)
  | none =>
    let evaluator ← alone given "evaluator" (evaluatorGroup env) "attribute"
    let validation ← alone given "validation" (validationGroup env) standardFlags
    ((fields env evaluator validation).read (entriesToDoc given)).mapError .faults

end Settings
end WorkflowKit
