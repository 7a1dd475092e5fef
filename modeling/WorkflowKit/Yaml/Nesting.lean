/-
# Nesting in YAML texts

Sequences and mappings stand in each other, but only so deep: a reader that goes down into each of
them gives up at the token that begins one level too many, unless the structure has gone wrong
before.  Two kinds of collections begin without a token of their own: a sequence of the same
indentation as the mapping around it, and a single pair among the items between brackets.
-/

import WorkflowKit.Yaml.Reader

namespace WorkflowKit
namespace Yaml

/-- How a collection is marked off from what is around it. -/
inductive Enclosure
  /-- A sequence, by its indentation. -/
  | blockSequence
  /-- A mapping, by its indentation. -/
  | blockMapping
  /-- A sequence, by the hyphens before its items alone. -/
  | levelSequence
  /-- A sequence, by brackets. -/
  | flowSequence
  /-- A mapping, by braces. -/
  | flowMapping
  /-- A pair, by the commas and brackets around it. -/
  | flowPair
  deriving DecidableEq, Repr

namespace Enclosure

/-- The collections that are still open when a token comes; the innermost one is the first. -/
def close : Token → List Enclosure → List Enclosure
  | .key, .levelSequence :: es | .value, .levelSequence :: es => es
  | .blockEnd, .levelSequence :: _ :: es => es
  | .blockEnd, _ :: es => es
  | .flowEntry, .flowPair :: es => es
  | .flowSequenceEnd, .flowPair :: _ :: es => es
  | .flowSequenceEnd, _ :: es | .flowMappingEnd, _ :: es => es
  | _, es => es

/-- The collection that a token begins inside of others. -/
def opened? : Token → List Enclosure → Option Enclosure
  | .blockSequence, _ => some .blockSequence
  | .blockMapping, _ => some .blockMapping
  | .flowSequence, _ => some .flowSequence
  | .flowMapping, _ => some .flowMapping
  | .blockEntry, .blockMapping :: _ => some .levelSequence
  | .key, .flowSequence :: _ => some .flowPair
  | _, _ => none

/-- The collections that are open behind a token. -/
def after (t : Token) (es : List Enclosure) : List Enclosure :=
  let es := close t es
  (opened? t es).toList ++ es

end Enclosure

/-- The greatest number of collections in each other. -/
def nestingLimit : Nat := 490

/-- The number of the first token behind which more than `limit` collections are open.  The first
of the given tokens has the number `pos`, and `es` are open before it. -/
def overrunFrom? (limit pos : Nat) (es : List Enclosure) : List Token → Option Nat
  | [] => none
  | t :: ts =>
    let es := Enclosure.after t es
    if limit < es.length then some pos else overrunFrom? limit (pos + 1) es ts

/-- The fault of a text that is nested too deep. -/
def overrun? (t : Text) : Option Fault :=
  match t.chars? with
  | none => none
  | some cs =>
    if !cs.all isAllowed then none
    else
      let ts := (tokens cs).1
      match overrunFrom? nestingLimit 0 [] ts with
      | none => none
      | some n =>
        match Node.ofTokens? (ts.take n) (some .nested) with
        | .error .nested => some .nested
        | _ => none

end Yaml
end WorkflowKit
