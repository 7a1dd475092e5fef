/-
# The nodes of a YAML text

A text is read into a tree of nodes.  An alias stands for the node of an anchor before it; an
anchor may be given once.  A node without a tag of its own has the one of its kind, and a plain
scalar the one of its form.
-/

import WorkflowKit.Yaml.Tag
import WorkflowKit.Yaml.Token.List

namespace WorkflowKit
namespace Yaml

/-- A node. -/
inductive Node
  /-- A scalar, and the number of tokens up to it, which tells it from the other scalars. -/
  | scalar (anchor : Option String) (place : Nat) (tag : Tag) (value : Text)
  /-- A sequence. -/
  | sequence (anchor : Option String) (tag : Tag) (items : List Node)
  /-- A mapping. -/
  | mapping (anchor : Option String) (tag : Tag) (entries : List (Node × Node))
  /-- The node of an anchor. -/
  | reference (name : String)
  deriving Repr, Inhabited

/-- A scalar that is not written. -/
def Node.empty : Node := .scalar none 0 .null ⟨[]⟩

namespace Node

/-- What is known between two tokens. -/
structure Progress where
  /-- The tokens that follow. -/
  tokens : List Token
  /-- The number of tokens passed so far. -/
  passed : Nat
  /-- What handles in tags stand for. -/
  handles : List (String × String)
  /-- The anchors given so far. -/
  anchors : List String

/-- A step of reading: it may end with a fault. -/
abbrev Reading (α : Type) := StateT Progress (Except Fault) α

/-- The fault of a text without structure. -/
def fail {α : Type} : Reading α := throw .malformed

/-- The next token. -/
def peek (ended : Fault) : Reading Token := do
  match (← get).tokens with
  | t :: _ => pure t
  | [] => throw ended

/-- The number of tokens passed so far. -/
def place : Reading Nat := do return (← get).passed

/-- Moves past a token. -/
def shift : Reading Unit :=
  modify fun p => { p with tokens := p.tokens.tail, passed := p.passed + 1 }

/-- The handles that need no directive. -/
def commonHandles : List (String × String) := [("!", "!"), ("!!", commonTags)]

/-- The properties of a node: its anchor and its tag in full. -/
structure Properties where
  /-- The anchor. -/
  anchor : Option String
  /-- The tag, in full. -/
  tag : Option String

/-- The full text of a tag. -/
def fullTag (handle : Option String) (suffix : String) : Reading String := do
  match handle with
  | none => pure suffix
  | some h =>
    match (← get).handles.find? fun e => e.1 == h with
    | some (_, meaning) => pure (meaning ++ suffix)
    | none => fail

/-- An anchor and a tag, in any order. -/
def properties (ended : Fault) : Reading Properties := do
  match ← peek ended with
  | .anchor a =>
    shift
    match ← peek ended with
    | .tag h s =>
      shift
      pure ⟨some a, some (← fullTag h s)⟩
    | _ => pure ⟨some a, none⟩
  | .tag h s =>
    shift
    match ← peek ended with
    | .anchor a =>
      shift
      pure ⟨some a, some (← fullTag h s)⟩
    | _ => pure ⟨none, some (← fullTag h s)⟩
  | _ => pure ⟨none, none⟩

/-- Notes an anchor, which must be new. -/
def noteAnchor : Option String → Reading Unit
  | none => pure ()
  | some a => do
    if (← get).anchors.contains a then fail
    else modify fun p => { p with anchors := a :: p.anchors }

/-- Whether a node has no tag of its own: it has none, or only `!`. -/
def Properties.untagged (p : Properties) : Bool :=
  match p.tag with
  | none => true
  | some t => t == "!"

/-- The tag of a sequence or mapping. -/
def Properties.tagOr (p : Properties) (usual : Tag) : Tag :=
  match p.tag with
  | none => usual
  | some t => if t == "!" then usual else .ofText t

/-- The tag of a scalar. -/
def Properties.scalarTag (p : Properties) (plain : Bool) (value : Text) : Tag :=
  match p.tag with
  | none => if plain then plainTag value else .text
  | some t => if t == "!" then plainTag value else .ofText t

mutual

/-- A node.  Outside of brackets a block may begin here if `block` holds, and a sequence of the
same indentation as the mapping around it if `level` holds. -/
def node (ended : Fault) (block level : Bool) : Nat → Reading Node
  | 0 => fail
  | fuel + 1 => do
    match ← peek ended with
    | .reference name =>
      shift
      if (← get).anchors.contains name then pure (.reference name) else fail
    | _ =>
      let p ← properties ended
      let t ← peek ended
      if level && t == .blockEntry then
        noteAnchor p.anchor
        let items ← levelItems ended fuel
        pure (.sequence p.anchor (p.tagOr .sequence) items)
      else match t with
      | .scalar plain value =>
        shift
        noteAnchor p.anchor
        pure (.scalar p.anchor (← place) (p.scalarTag plain value) value)
      | .flowSequence =>
        shift
        noteAnchor p.anchor
        let items ← flowItems ended true fuel
        pure (.sequence p.anchor (p.tagOr .sequence) items)
      | .flowMapping =>
        shift
        noteAnchor p.anchor
        let entries ← flowEntries ended true fuel
        pure (.mapping p.anchor (p.tagOr .mapping) entries)
      | t =>
        if block && t == .blockSequence then
          shift
          noteAnchor p.anchor
          let items ← blockItems ended fuel
          pure (.sequence p.anchor (p.tagOr .sequence) items)
        else if block && t == .blockMapping then
          shift
          noteAnchor p.anchor
          let entries ← blockEntries ended fuel
          pure (.mapping p.anchor (p.tagOr .mapping) entries)
        else if p.anchor.isSome || p.tag.isSome then
          noteAnchor p.anchor
          pure (.scalar p.anchor (← place) (p.scalarTag true ⟨[]⟩) ⟨[]⟩)
        else fail

/-- A node, or the empty scalar before one of the tokens `stops`. -/
def nodeUnless (ended : Fault) (stops : List Token) (block level : Bool) : Nat → Reading Node
  | 0 => fail
  | fuel + 1 => do
    if stops.contains (← peek ended) then pure .empty else node ended block level fuel

/-- The items of a block sequence to its end. -/
def blockItems (ended : Fault) : Nat → Reading (List Node)
  | 0 => fail
  | fuel + 1 => do
    match ← peek ended with
    | .blockEntry =>
      shift
      let n ← nodeUnless ended [.blockEntry, .blockEnd] true false fuel
      let ns ← blockItems ended fuel
      pure (n :: ns)
    | .blockEnd =>
      shift
      pure []
    | _ => fail

/-- The items of a sequence of the same indentation as the mapping around it. -/
def levelItems (ended : Fault) : Nat → Reading (List Node)
  | 0 => fail
  | fuel + 1 => do
    match ← peek ended with
    | .blockEntry =>
      shift
      let n ← nodeUnless ended [.blockEntry, .key, .value, .blockEnd] true false fuel
      let ns ← levelItems ended fuel
      pure (n :: ns)
    | _ => pure []

/-- The value after a key, if a colon follows. -/
def valueAfter (ended : Fault) (stops : List Token) (block level : Bool) : Nat → Reading Node
  | 0 => fail
  | fuel + 1 => do
    match ← peek ended with
    | .value =>
      shift
      nodeUnless ended stops block level fuel
    | _ => pure .empty

/-- The entries of a block mapping to its end. -/
def blockEntries (ended : Fault) : Nat → Reading (List (Node × Node))
  | 0 => fail
  | fuel + 1 => do
    match ← peek ended with
    | .key =>
      shift
      let k ← nodeUnless ended [.key, .value, .blockEnd] true true fuel
      let v ← valueAfter ended [.key, .value, .blockEnd] true true fuel
      let es ← blockEntries ended fuel
      pure ((k, v) :: es)
    | .blockEnd =>
      shift
      pure []
    | _ => fail

/-- The items between brackets to the closing one.  Before each but the first a comma stands; a
key with a value is a mapping of its own. -/
def flowItems (ended : Fault) (first : Bool) : Nat → Reading (List Node)
  | 0 => fail
  | fuel + 1 => do
    if (← peek ended) == .flowSequenceEnd then
      shift
      pure []
    else
      if !first then
        if (← peek ended) == .flowEntry then shift else fail
      match ← peek ended with
      | .key =>
        shift
        let k ← nodeUnless ended [.value, .flowEntry, .flowSequenceEnd] false false fuel
        let v ← valueAfter ended [.flowEntry, .flowSequenceEnd] false false fuel
        let ns ← flowItems ended false fuel
        pure (.mapping none .mapping [(k, v)] :: ns)
      | .flowSequenceEnd =>
        shift
        pure []
      | _ =>
        let n ← node ended false false fuel
        let ns ← flowItems ended false fuel
        pure (n :: ns)

/-- The entries between braces to the closing one. -/
def flowEntries (ended : Fault) (first : Bool) : Nat → Reading (List (Node × Node))
  | 0 => fail
  | fuel + 1 => do
    if (← peek ended) == .flowMappingEnd then
      shift
      pure []
    else
      if !first then
        if (← peek ended) == .flowEntry then shift else fail
      match ← peek ended with
      | .key =>
        shift
        let k ← nodeUnless ended [.value, .flowEntry, .flowMappingEnd] false false fuel
        let v ← valueAfter ended [.flowEntry, .flowMappingEnd] false false fuel
        let es ← flowEntries ended false fuel
        pure ((k, v) :: es)
      | .flowMappingEnd =>
        shift
        pure []
      | _ =>
        let k ← node ended false false fuel
        let es ← flowEntries ended false fuel
        pure ((k, .empty) :: es)

end

/-- The directives before a document.  The version may be given once and must begin with 1; a
handle may be given once. -/
def directives (ended : Fault) : Nat → Bool → List (String × String) → Reading Unit
  | 0, _, _ => fail
  | fuel + 1, versioned, handles => do
    match ← peek ended with
    | .directive .other =>
      shift
      directives ended fuel versioned handles
    | .directive (.version major) =>
      shift
      if versioned || major != 1 then fail else directives ended fuel true handles
    | .directive (.handle name meaning) =>
      shift
      if handles.any fun h => h.1 == name then fail
      else directives ended fuel versioned (handles ++ [(name, meaning)])
    | _ => modify fun p => { p with handles := handles ++ commonHandles }

/-- Moves past marks of the end of a document. -/
def skipEnds (ended : Fault) : Nat → Reading Unit
  | 0 => fail
  | fuel + 1 => do
    match ← peek ended with
    | .documentEnd =>
      shift
      skipEnds ended fuel
    | _ => pure ()

/-- The end of a document, after which the text must end. -/
def theEnd (ended : Fault) (fuel : Nat) : Reading Unit := do
  skipEnds ended fuel
  if (← peek ended) == .streamEnd then pure () else fail

/-- Whether a token can stand only outside of a document. -/
def isOutside (t : Token) : Bool :=
  match t with
  | .directive _ | .documentStart | .documentEnd | .streamEnd => true
  | _ => false

/-- The one document of a text, if it has one. -/
def document (ended : Fault) (fuel : Nat) : Reading (Option Node) := do
  match ← peek ended with
  | .streamEnd => pure none
  | .directive _ | .documentStart =>
    directives ended fuel false []
    if (← peek ended) == .documentStart then
      shift
      let n ← if isOutside (← peek ended) then pure .empty else node ended true false fuel
      theEnd ended fuel
      pure (some n)
    else fail
  | _ =>
    let n ← node ended true false fuel
    theEnd ended fuel
    pure (some n)

/-- The node that tokens describe, if there is one.  A fault that ends the tokens counts when their
end is reached. -/
def ofTokens? (tokens : List Token) (fault : Option Fault) : Except Fault (Option Node) :=
  let ended := fault.getD .malformed
  (document ended (3 * tokens.length + 10)).run' ⟨tokens, 0, commonHandles, []⟩

end Node
end Yaml
end WorkflowKit
