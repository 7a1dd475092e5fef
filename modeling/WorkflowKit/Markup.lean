/-
# Markup

A workflow is written in one of two formats, JSON or YAML.  Reading a text tries JSON first and
then YAML, and fails only if both attempts fail.  An attempt reads the text, replaces the
placeholders in the document, and decodes it.

Some faults end reading at once, before the second attempt: integers that are too long, values
that do not fit their YAML tags, and extension ids that are collections.

Reading a text and resolving its document go down to any depth, and so does `decode`.  Whoever has
only so much room for them takes `decodeBounded`, which gives up where a text or a document is
nested too deep.  The limits of other ways down are left out: decoding a document, writing one, and
checking one by a schema go to any depth.
-/

import WorkflowKit.Decode.Workflow
import WorkflowKit.Json.Nesting
import WorkflowKit.Json.Reader
import WorkflowKit.Json.Writer
import WorkflowKit.Template.Resolver
import WorkflowKit.Workflow.Document
import WorkflowKit.Yaml.Nesting
import WorkflowKit.Yaml.Reader
import WorkflowKit.Yaml.Writer

namespace WorkflowKit

/-- A format of markup. -/
inductive Format
  /-- JSON. -/
  | json
  /-- YAML. -/
  | yaml
  deriving DecidableEq, Repr

/-- The name of a format. -/
def Format.name : Format → String
  | .json => "json"
  | .yaml => "yaml"

namespace Markup

/-- Why an attempt fails. -/
inductive AttemptFault
  /-- The text is not of the format. -/
  | unreadable (message : Text)
  /-- The document is no mapping, but of this kind. -/
  | notMapping (kindName : String)
  /-- A placeholder of the document has an unknown key. -/
  | unresolved (message : Text)
  /-- The document has faults. -/
  | faults (fs : List Decode.Fault)
  deriving Repr

/-- A fault that ends reading at once. -/
inductive Interruption
  /-- An integer is too long. -/
  | digits (fault : Number.DigitFault)
  /-- A value does not fit its tag, or collections are nested too deep. -/
  | value (fault : Yaml.Fault)
  /-- An extension id is a collection of this kind. -/
  | collectionId (kindName : String)
  /-- A container is nested too deep. -/
  | nested (container : Json.Container)
  /-- A document is nested too deep for its placeholders to be replaced. -/
  | deepDocument
  deriving Repr

/-- The wording of a fault that ends reading at once. -/
def Interruption.message : Interruption → String
  | .digits f => f.message
  | .value f => f.message
  | .collectionId kind => Decode.collectionIdMessage kind
  | .nested c => c.message
  | .deepDocument => Template.nestedMessage

/-- The wording of a number of faults in a workflow. -/
def faultCount (n : Nat) : String :=
  toString n ++ (if n = 1 then " validation error" else " validation errors") ++ " for Workflow"

/-- The wording of the fault of an attempt. -/
def AttemptFault.message : AttemptFault → Text
  | .unreadable m => m
  | .notMapping kind => ↑("Expected a mapping at the top level, got " ++ kind)
  | .unresolved m => m
  | .faults fs => faultCount fs.length

/-- The document of a text. -/
def document (format : Format) (s : Text) : Except Interruption (Except AttemptFault Doc) :=
  match format with
  | .json =>
    match Json.read s with
    | .ok v => .ok (.ok v.toDoc)
    | .error (.malformed m pos) => .ok (.error (.unreadable (Json.locate s m pos)))
    | .error (.digits f) => .error (.digits f)
  | .yaml =>
    match Yaml.read s with
    | .ok d => .ok (.ok d)
    | .error .malformed => .ok (.error (.unreadable Yaml.Fault.malformed.message))
    | .error f => .error (.value f)

/-- Where reading a text of a format gives up for lack of room. -/
def nestingFault? (format : Format) (s : Text) : Option Interruption :=
  match format with
  | .json => (Json.overrun? s).map .nested
  | .yaml => (Yaml.overrun? s).map .value

/-- The document of a text that is not nested too deep. -/
def documentBounded (format : Format) (s : Text) : Except Interruption (Except AttemptFault Doc) :=
  match nestingFault? format s with
  | some f => .error f
  | none => document format s

/-- How workflows are read: the shapes of extension records, and what placeholders are replaced
by. -/
structure Codec where
  /-- The shapes of extension records. -/
  extensions : ExtensionRegistry
  /-- What placeholders are replaced by; without it they stay. -/
  resolver : Option Template.Resolver

/-- The outcome of one attempt. -/
abbrev Attempt := Except Interruption (Except AttemptFault Workflow)

namespace Codec

/-- A document with its placeholders replaced, as far as there is room for that. -/
def resolveWithin (c : Codec) (room : Option Template.Room) (d : Doc) :
    Except Interruption (Except AttemptFault Doc) :=
  match c.resolver with
  | none => .ok (.ok d)
  | some r =>
    match r.resolveDoc room d with
    | .ok d => .ok (.ok d)
    | .error (.unknown t p) =>
      .ok (.error (.unresolved (Template.ResolveFault.unknown t p).message))
    | .error (.digits f) => .error (.digits f)
    | .error .nested => .error .deepDocument

/-- A document with its placeholders replaced. -/
def resolve (c : Codec) (d : Doc) : Except Interruption (Except AttemptFault Doc) :=
  c.resolveWithin none d

/-- The workflow that a document describes, if there is room to resolve it. -/
def ofDocumentWithin (c : Codec) (room : Option Template.Room) (d : Doc) : Attempt :=
  match d.unmarked with
  | .map _ => do
    match ← c.resolveWithin room d with
    | .error f => pure (.error f)
    | .ok d =>
      match Decode.workflow (some c.extensions) d with
      | .ok w => pure (.ok w)
      | .error (.faults fs) => pure (.error (.faults fs))
      | .error (.collectionId kind) => .error (.collectionId kind)
  | _ => .ok (.error (.notMapping d.kindName))

/-- The workflow that a document describes. -/
def ofDocument (c : Codec) (d : Doc) : Attempt := c.ofDocumentWithin none d

/-- Reads a text of one format. -/
def attempt (c : Codec) (format : Format) (s : Text) : Attempt := do
  match ← document format s with
  | .error f => pure (.error f)
  | .ok d => c.ofDocument d

/-- Reads a text of either format; the faults of both attempts, if both fail. -/
def decode (c : Codec) (s : Text) :
    Except Interruption (Except (List (Format × AttemptFault)) Workflow) := do
  match ← c.attempt .json s with
  | .ok w => pure (.ok w)
  | .error f =>
    match ← c.attempt .yaml s with
    | .ok w => pure (.ok w)
    | .error g => pure (.error [(.json, f), (.yaml, g)])

/-- Reads a text of one format, unless it or its document is nested too deep. -/
def attemptBounded (c : Codec) (format : Format) (s : Text) : Attempt := do
  match ← documentBounded format s with
  | .error f => pure (.error f)
  | .ok d => c.ofDocumentWithin (some .initial) d

/-- Reads a text of either format, unless it or its document is nested too deep. -/
def decodeBounded (c : Codec) (s : Text) :
    Except Interruption (Except (List (Format × AttemptFault)) Workflow) := do
  match ← c.attemptBounded .json s with
  | .ok w => pure (.ok w)
  | .error f =>
    match ← c.attemptBounded .yaml s with
    | .ok w => pure (.ok w)
    | .error g => pure (.error [(.json, f), (.yaml, g)])

end Codec

/-- The wording of two failed attempts. -/
def refusalMessage : String := "Could not convert markup to Workflow."

/-- The wording of the fault of an attempt, with its format. -/
def attemptMessage (a : Format × AttemptFault) : Text :=
  Text.ofString (a.1.name ++ ": ") ++ a.2.message

/-- The text of a value in a format. -/
def write (format : Format) (v : Value) : Except Number.DigitFault Text :=
  match format with
  | .json => Json.write v
  | .yaml => Text.ofString <$> Yaml.write v

/-- The text of a workflow in a format. -/
def encode (format : Format) (w : Workflow) : Except Number.DigitFault Text :=
  write format w.document

end Markup
end WorkflowKit
