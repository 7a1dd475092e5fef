/-
# The format of workflow documents

The data model as a table: every part of a workflow has fields, and every field has a content and
a default that is written where the field is not given.

A document is given by someone, and another is written for what was read from it.  `Renders` says
that nothing is lost and nothing invented between the two.  A text is the same, or the text of the
scalar that was given; integers, truth values and words are those that are read.  A list has as
many items in the same order, each of which renders the one that was given.  In a record

* every key that is given is the name of a field, and no field is given by both its names;
* every key that is written is the key of a field, and stands there once;
* a field that is given is written with a value that renders what was given, unless it was given
  as absent or as an empty collection;
* a field that is not given is written exactly if it has a default, and then with that.

What becomes of a mapping to texts is a parameter of the relation.
-/

import WorkflowKit.Decode.Workflow
import WorkflowKit.Workflow.Document

namespace WorkflowKit
namespace Decode

/-! ### The parts and their fields -/

/-- The parts of a workflow that are records. -/
inductive Part
  /-- A trigger. -/
  | trigger
  /-- A reference to a function. -/
  | function
  /-- A retry declaration. -/
  | retry
  /-- The call of a function. -/
  | action
  /-- Data paths. -/
  | filter
  /-- An event condition. -/
  | event
  /-- A choice of a kind. -/
  | choice (k : ChoiceKind)
  /-- A state of a kind. -/
  | state (k : StateKind)
  /-- A branch. -/
  | branch
  /-- An extension record of a shape. -/
  | extension (s : ExtensionShape)
  /-- The workflow itself. -/
  | workflow

/-- What a field holds. -/
inductive Content
  /-- A text, or a scalar with a text. -/
  | text
  /-- A text, which is not read from numbers. -/
  | plainText
  /-- An integer that is not negative. -/
  | count
  /-- An integer. -/
  | integer
  /-- A truth value. -/
  | truth
  /-- One of some words. -/
  | word (ws : List String)
  /-- A mapping to texts. -/
  | texts
  /-- A list. -/
  | list (c : Content)
  /-- A part. -/
  | part (p : Part)
  /-- A choice of the kind that stands under `type`. -/
  | anyChoice
  /-- A state of the kind that stands under `type`. -/
  | anyState
  /-- An extension record of the shape that is registered for its id. -/
  | anyExtension

/-- A field of a part. -/
structure FieldSpec where
  /-- Its names. -/
  name : FieldName
  /-- What it holds. -/
  content : Content
  /-- What is written if it is not given. -/
  fallback : Option Value

namespace FieldSpec

/-- A field without a default. -/
def plain (name : FieldName) (c : Content) : FieldSpec := ⟨name, c, none⟩

/-- A truth value, false by default. -/
def flag (name : FieldName) : FieldSpec := ⟨name, .truth, some (.bool false)⟩

/-- One of some words, the first by default. -/
def words (name : FieldName) (ws : List String) : FieldSpec :=
  ⟨name, .word ws, ws.head?.map fun w => .text (.ofString w)⟩

/-- The field `type` of a record of one kind. -/
def kind (w : String) : FieldSpec := words (same "type") [w]

/-- The field `action-mode`. -/
def mode : FieldSpec := words actionMode (ActionMode.all.map ActionMode.text)

end FieldSpec

open FieldSpec (plain flag words kind)

/-- The further fields of a choice. -/
def choiceSpecs : ChoiceKind → List FieldSpec
  | .single => [plain (same "path") .text, plain (same "value") .text,
    plain (same "operator") (.word (Operator.all.map Operator.text))]
  | .all => [plain ⟨"and", "and_"⟩ (.list (.part (.choice .single)))]
  | .any => [plain ⟨"or", "or_"⟩ (.list (.part (.choice .single)))]
  | .none => [plain ⟨"not", "not_"⟩ (.part (.choice .single))]

/-- The further fields of a state. -/
def stateSpecs : StateKind → List FieldSpec
  | .event => [plain (same "events") (.list (.part .event))]
  | .operation => [.mode, plain (same "actions") (.list (.part .action)), plain nextState .text,
    plain (same "filter") (.part .filter)]
  | .switch => [plain (same "choices") (.list .anyChoice), plain (same "default") .text]
  | .delay => [plain ⟨"time-delay", "time_delay"⟩ .count, plain nextState .text]
  | .parallel => [plain (same "branches") (.list (.part .branch)), plain nextState .text]
  | .finish => [words (same "status") (EndStatus.all.map EndStatus.text)]
  | .subflow => [plain ⟨"workflow-id", "workflow_id"⟩ .text, plain (same "version") .text,
    flag waitForCompletion]

/-- A field of an extension record. -/
def extensionSpec (name : String) : ExtensionField → FieldSpec
  | .text fallback => ⟨same name, .plainText, some (.text fallback)⟩
  | .int fallback => ⟨same name, .integer, some (.int fallback)⟩
  | .optionalText => plain (same name) .text
  | .texts => plain (same name) .texts
  | .items => plain (same name) (.list .plainText)
  | .filter => plain (same name) (.part .filter)

/-- The fields of a part. -/
def Part.specs : Part → List FieldSpec
  | .trigger => [plain (same "name") .text, plain (same "source") .text, plain (same "type") .text,
    plain ⟨"correlation-token", "correlation_token"⟩ .text]
  | .function => [plain (same "name") .text, plain (same "type") .text,
    plain (same "parameters") .texts]
  | .retry => [plain (same "match") .text, plain ⟨"max-retry", "max_retry"⟩ .count,
    plain ⟨"retry-interval", "retry_interval"⟩ .count, plain nextState .text]
  | .action => [plain (same "function") (.part .function), plain (same "timeout") .count,
    plain (same "retry") (.part .retry)]
  | .filter => [plain ⟨"input-path", "input_path"⟩ .text,
    plain ⟨"result-path", "result_path"⟩ .text, plain ⟨"output-path", "output_path"⟩ .text]
  | .event => [plain ⟨"event-expression", "event_expression"⟩ .text, plain nextState .text, .mode,
    plain (same "timeout") .count, plain (same "actions") (.list (.part .action))]
  | .choice k => kind k.text :: choiceSpecs k ++ [plain nextState .text]
  | .state k => plain (same "name") .text :: kind k.text :: flag (same "start") ::
    flag (same "end") :: stateSpecs k
  | .branch => [plain (same "name") .text, plain (same "states") (.list .anyState),
    flag waitForCompletion]
  | .extension s => plain extensionId .text :: s.fields.map fun f => extensionSpec f.1 f.2
  | .workflow => [plain (same "id") .text, plain (same "name") .text,
    plain (same "version") .text, plain ⟨"starts-at", "starts_at"⟩ .text,
    plain ⟨"trigger-defs", "trigger_defs"⟩ (.list (.part .trigger)),
    plain (same "states") (.list .anyState), plain (same "metadata") .texts,
    plain (same "extensions") (.list .anyExtension)]

/-- The names of a field, each once. -/
def FieldName.all (f : FieldName) : List String :=
  if f.key = f.second then [f.key] else [f.key, f.second]

/-- The names of all fields of a part. -/
def Part.names (p : Part) : List String := p.specs.flatMap fun s => s.name.all

/-! ### Nothing lost, nothing invented -/

/-- Whether the kind that a mapping gives is this word. -/
def HasType (es : List (Scalar × Doc)) (w : String) : Prop :=
  ∃ d, Doc.field? "type" es = some d ∧ d.unmarked = .scalar (.text (.ofString w))

/-- Whether a mapping with these entries is read as a part where a field holds some content. -/
def Content.Admits (r : ExtensionRegistry) (es : List (Scalar × Doc)) : Content → Part → Prop
  | .part p, q => p = q
  | .anyChoice, .choice k => HasType es k.text
  | .anyState, .state k => HasType es k.text
  | .anyExtension, .extension s => ∃ id, (givenId es).unmarked = .scalar (.text id) ∧ r.get? id = s
  | _, _ => False

/-- Whether what is given counts as nothing: an empty collection where a field holds a collection,
and the absent value elsewhere. -/
def Content.Drops : Content → Doc → Prop
  | .list _, d => items? d = some []
  | .texts, d => d.unmarked = .map []
  | _, d => d.unmarked = .scalar .null

/-- The text of a scalar, if it has one. -/
def scalarText? : Scalar → Option Text
  | .text t => some t
  | .bool b => some (if b then "true" else "false")
  | .int n => some (.ofChars (Number.intText n))
  | .float x => some (.ofChars x.text)
  | .date d => some d.text
  | .instant t => some t.text
  | .bytes bs => (bytesText? bs).map .ofString
  | .null => none

/-- The text of a text, or of bytes that encode one. -/
def plainText? : Scalar → Option Text
  | .text t => some t
  | .bytes bs => (bytesText? bs).map .ofString
  | _ => none

/-- What is written for what is given, where a field holds some content. -/
inductive Renders (r : ExtensionRegistry)
    (mapping : List (Scalar × Doc) → List (Text × Value) → Prop) : Content → Doc → Value → Prop
  /-- A text is the text of what is given. -/
  | text {d : Doc} {s : Scalar} {t : Text} (given : d.unmarked = .scalar s)
    (same : scalarText? s = some t) : Renders r mapping .text d (.text t)
  /-- A text is the text that is given. -/
  | plainText {d : Doc} {s : Scalar} {t : Text} (given : d.unmarked = .scalar s)
    (same : plainText? s = some t) : Renders r mapping .plainText d (.text t)
  /-- A count is the integer that is given, and not negative. -/
  | count {d : Doc} {n : Int} (same : Decode.integer d = .ok n) (nonneg : 0 ≤ n) :
    Renders r mapping .count d (.int n)
  /-- An integer is the integer that is given. -/
  | integer {d : Doc} {n : Int} (same : Decode.integer d = .ok n) :
    Renders r mapping .integer d (.int n)
  /-- A truth value is the one that is given. -/
  | truth {d : Doc} {b : Bool} (same : Decode.truth d = .ok b) :
    Renders r mapping .truth d (.bool b)
  /-- A word is the word that is given, and one of those that may be. -/
  | word {d : Doc} {s : Scalar} {w : String} {ws : List String} (given : d.unmarked = .scalar s)
    (same : plainText? s = some (.ofString w)) (mem : w ∈ ws) :
    Renders r mapping (.word ws) d (.text (.ofString w))
  /-- A mapping to texts is written for the one that is given. -/
  | texts {d : Doc} {es : List (Scalar × Doc)} {cs : List (Text × Value)}
    (given : d.unmarked = .map es) (written : mapping es cs) : Renders r mapping .texts d (.map cs)
  /-- A list has as many items as the one that is given, in the same order. -/
  | list {c : Content} {d : Doc} {ds : List Doc} {vs : List Value} (given : items? d = some ds)
    (ne_nil : vs ≠ []) (length : ds.length = vs.length)
    (items : ∀ i (hd : i < ds.length) (hv : i < vs.length),
      Renders r mapping c ds[i] vs[i]) :
    Renders r mapping (.list c) d (.list vs)
  /-- A record has the fields that are given and the defaults of the others. -/
  | record {c : Content} {p : Part} {d : Doc} {es : List (Scalar × Doc)}
    {cs : List (Text × Value)} (given : d.unmarked = .map es) (admits : c.Admits r es p)
    (known : ∀ e ∈ es, ∃ s ∈ p.specs, ∃ k d, s.name.given? es = some (k, d) ∧
      e.1 = .text (.ofString k))
    (once : ∀ s ∈ p.specs, ∀ k ∈ s.name.all, ∀ k' ∈ s.name.all,
      .text (.ofString k) ∈ es.map Prod.fst → .text (.ofString k') ∈ es.map Prod.fst → k = k')
    (nodup : (cs.map Prod.fst).Nodup)
    (declared : ∀ e ∈ cs, ∃ s ∈ p.specs, e.1 = .ofString s.name.key)
    (fields : ∀ s ∈ p.specs, ∀ k d v, s.name.given? es = some (k, d) →
      (.ofString s.name.key, v) ∈ cs → Renders r mapping s.content d v)
    (kept : ∀ s ∈ p.specs, ∀ k d, s.name.given? es = some (k, d) → ¬ s.content.Drops d →
      ∃ v, (.ofString s.name.key, v) ∈ cs)
    (fallback : ∀ s ∈ p.specs, s.name.given? es = none → ∀ v,
      (.ofString s.name.key, v) ∈ cs ↔ s.fallback = some v) :
    Renders r mapping c d (.map cs)

end Decode
end WorkflowKit
