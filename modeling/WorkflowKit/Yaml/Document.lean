/-
# From nodes to documents

The document that a tree of nodes describes.

* The entries of mappings under a merge key come before the other entries of a mapping, so that
  the latter win; of several merged mappings the first wins.
* A key must be a scalar.  A scalar `=` without quotes stands only for a key, or for a text where it
  has been the key of a mapping before.
* A set has the keys of a mapping, and a list of pairs has one mapping of one entry for each pair.

Faults are found level by level: the scalars of a collection before anything inside the
collections that it holds.
-/

import WorkflowKit.Yaml.Node
import WorkflowKit.Yaml.Scalar

namespace WorkflowKit
namespace Yaml

/-- The nodes of a text by their anchors. -/
abbrev Anchors := List (String × Node)

namespace Node

/-- The anchor of a node. -/
def anchor? : Node → Option String
  | scalar a _ _ _ => a
  | sequence a _ _ => a
  | mapping a _ _ => a
  | reference _ => none

mutual

/-- The nodes with an anchor, each behind those that stand in it. -/
def anchors : Node → Anchors
  | scalar (some a) p t v => [(a, scalar (some a) p t v)]
  | scalar none _ _ _ => []
  | sequence (some a) t ns => anchorsOfItems ns ++ [(a, sequence (some a) t ns)]
  | sequence none _ ns => anchorsOfItems ns
  | mapping (some a) t es => anchorsOfEntries es ++ [(a, mapping (some a) t es)]
  | mapping none _ es => anchorsOfEntries es
  | reference _ => []

/-- The nodes with an anchor among items. -/
def anchorsOfItems : List Node → Anchors
  | [] => []
  | n :: ns => n.anchors ++ anchorsOfItems ns

/-- The nodes with an anchor among entries. -/
def anchorsOfEntries : List (Node × Node) → Anchors
  | [] => []
  | (k, v) :: es => k.anchors ++ v.anchors ++ anchorsOfEntries es

end

mutual

/-- How deep a node is nested. -/
def depth : Node → Nat
  | scalar .. => 0
  | sequence _ _ ns => depthOfItems ns + 1
  | mapping _ _ es => depthOfEntries es + 1
  | reference _ => 0

/-- The greatest depth of an item. -/
def depthOfItems : List Node → Nat
  | [] => 0
  | n :: ns => max n.depth (depthOfItems ns)

/-- The greatest depth in entries. -/
def depthOfEntries : List (Node × Node) → Nat
  | [] => 0
  | (k, v) :: es => max (max k.depth v.depth) (depthOfEntries es)

end

mutual

/-- The anchors that the aliases in a node name. -/
def references : Node → List String
  | scalar .. => []
  | sequence _ _ ns => referencesOfItems ns
  | mapping _ _ es => referencesOfEntries es
  | reference a => [a]

/-- The anchors that the aliases in items name. -/
def referencesOfItems : List Node → List String
  | [] => []
  | n :: ns => n.references ++ referencesOfItems ns

/-- The anchors that the aliases in entries name. -/
def referencesOfEntries : List (Node × Node) → List String
  | [] => []
  | (k, v) :: es => k.references ++ v.references ++ referencesOfEntries es

end

/-- The node that a node stands for. -/
def target (env : Anchors) : Node → Node
  | reference name =>
    match env.find? fun e => e.1 == name with
    | some (_, n) => n
    | none => .empty
  | n => n

/-- The tag of a node that is no alias. -/
def tag : Node → Tag
  | scalar _ _ t _ => t
  | sequence _ t _ => t
  | mapping _ t _ => t
  | reference _ => .other

/-- The tag of the node that a node stands for. -/
def targetTag (env : Anchors) (n : Node) : Tag := (n.target env).tag

end Node

/-- Whether a tag is that of a collection. -/
def Tag.isCollection : Tag → Bool
  | .sequence | .mapping | .set | .orderedMap | .pairs => true
  | _ => false

/-- A bound on the length of a way through nodes and aliases that comes to each anchor at most
`visits` times. -/
def wayBound (env : Anchors) (n : Node) (visits : Nat) : Nat :=
  let depth := (env.map fun e => e.2.depth).foldl max n.depth
  (depth + 2) * (visits * env.length + 1) + 1

/-! ## Entries -/

/-- The entries of the mappings in a list, each given by `entries`. -/
def concatReversed (lists : List (List (Node × Node))) : List (Node × Node) :=
  lists.reverse.flatten

/-- The entries of a mapping, with those of merged mappings in front.  `path` holds the anchors of
the mappings that are being merged; the entries of one of these count without its merges. -/
def mergedEntries (env : Anchors) :
    Nat → List String → List (Node × Node) → Except Fault (List (Node × Node))
  | 0, _, _ => .error .malformed
  | fuel + 1, path, entries => do
    let own := entries.filter fun e => e.1.targetTag env != .merge
    let ofNode := fun (n : Node) =>
      match n.target env with
      | .mapping a _ es =>
        if a.any path.contains then .ok (es.filter fun e => e.1.targetTag env != .merge)
        else mergedEntries env fuel (a.toList ++ path) es
      | _ => .error .malformed
    let merged ← (entries.filter fun e => e.1.targetTag env == .merge).mapM fun e =>
      match e.2.target env with
      | .sequence _ _ ns => concatReversed <$> ns.mapM ofNode
      | n => ofNode n
    pure (merged.flatten ++ own)

/-- The entries of a mapping node, with those of merged mappings in front. -/
def entriesOf (env : Anchors) (bound : Nat) (anchor : Option String)
    (entries : List (Node × Node)) : Except Fault (List (Node × Node)) :=
  mergedEntries env bound anchor.toList entries

/-- Whether a node is a scalar `=` that is none of `texts`, the places of those that have become
texts. -/
def isDefaultKey (env : Anchors) (texts : List Nat) (n : Node) : Bool :=
  match n.target env with
  | .scalar _ place .value _ => !texts.contains place
  | n => n.tag == .value

/-- The text of a scalar; a mapping stands for the value of its key `=`. -/
def scalarText (env : Anchors) (texts : List Nat) : Nat → Node → Except Fault Text
  | 0, _ => .error .malformed
  | fuel + 1, n =>
    match n.target env with
    | .scalar _ _ _ s => .ok s
    | .mapping _ _ es =>
      match es.find? fun e => isDefaultKey env texts e.1 with
      | some (_, v) => scalarText env texts fuel v
      | none => .error .malformed
    | _ => .error .malformed

/-- The value of a node, if its tag is not that of a collection.  A timestamp is written by a scalar
alone. -/
def plainValue (env : Anchors) (texts : List Nat) (bound : Nat) (n : Node) :
    Except Fault (Option Scalar) :=
  let tag := n.targetTag env
  if tag.isCollection then .ok none
  else do
    let s ← scalarText env texts bound n
    match tag, n.target env with
    | .timestamp, .mapping .. => .error .timestampOfMapping
    | _, _ => some <$> scalarValue tag s

/-! ## Faults -/

/-- The collections that are still to be checked, and what is known of the nodes already met. -/
structure Pending where
  /-- The collections of the next level, the last one first. -/
  next : List Node
  /-- The anchors of nodes met so far. -/
  seen : List String
  /-- The places of the scalars `=` that have been keys so far. -/
  texts : List Nat

/-- Checks the value of a node, and notes a collection for the next level. -/
def checkValue (env : Anchors) (bound : Nat) (p : Pending) (n : Node) : Except Fault Pending := do
  let anchor := (n.target env).anchor?
  if anchor.any p.seen.contains then pure p
  else
    let p := { p with seen := anchor.toList ++ p.seen }
    match ← plainValue env p.texts bound n with
    | some _ => pure p
    | none => pure { p with next := n.target env :: p.next }

/-- Checks the value of a node that is no key. -/
def checkNode (env : Anchors) (bound : Nat) (p : Pending) (n : Node) : Except Fault Pending :=
  if isDefaultKey env p.texts n then .error .malformed else checkValue env bound p n

/-- Checks a key. -/
def checkKey (env : Anchors) (bound : Nat) (p : Pending) (n : Node) : Except Fault Pending :=
  if (n.targetTag env).isCollection then .error .malformed else checkValue env bound p n

/-- The places of the scalars `=` among the keys of a mapping. -/
def defaultKeys (env : Anchors) (entries : List (Node × Node)) : List Nat :=
  entries.filterMap fun e =>
    match e.1.target env with
    | .scalar _ place .value _ => some place
    | _ => none

/-- The key and the value of a mapping of one entry. -/
def onlyPair? (env : Anchors) (n : Node) : Option (Node × Node) :=
  match n.target env with
  | .mapping _ _ [e] => some e
  | _ => none

/-- Checks what a collection holds. -/
def checkCollection (env : Anchors) (bound : Nat) (p : Pending) (n : Node) :
    Except Fault Pending := do
  match n.tag, n with
  | .sequence, .sequence _ _ ns => ns.foldlM (checkNode env bound) p
  | .mapping, .mapping a _ es | .set, .mapping a _ es =>
    let es ← entriesOf env bound a es
    es.foldlM (fun p e => do checkNode env bound (← checkKey env bound p e.1) e.2)
      { p with texts := defaultKeys env es ++ p.texts }
  | .orderedMap, .sequence _ _ ns | .pairs, .sequence _ _ ns =>
    ns.foldlM (fun p n => do
      match onlyPair? env n with
      | none => .error .malformed
      | some (k, v) => checkNode env bound (← checkNode env bound p k) v) p
  | _, _ => .error .malformed

/-- Checks a level of collections and those below it. -/
def checkLevels (env : Anchors) (bound : Nat) : Nat → Pending → Except Fault Unit
  | 0, _ => .ok ()
  | fuel + 1, p =>
    if p.next.isEmpty then .ok ()
    else do
      let q ← p.next.reverse.foldlM (checkCollection env bound) { p with next := [] }
      checkLevels env bound fuel q

/-- Finds the first fault of a tree. -/
def check (env : Anchors) (bound : Nat) (n : Node) : Except Fault Unit := do
  checkLevels env bound bound (← checkNode env bound ⟨[], [], []⟩ n)

/-! ## Documents -/

/-- How often a collection is unfolded on a way into itself.  A workflow comes to one collection as
a whole, as a state and as a branch before it must notice that it goes round in a circle. -/
def unfoldings : Nat := 4

/-- The number of an anchor. -/
def anchorId (env : Anchors) (a : String) : Nat := env.findIdx fun e => e.1 == a

/-- The document of a node that is no alias, where `sub` gives those of the nodes in it. -/
def buildWith (env : Anchors) (bound : Nat) (sub : Node → Doc) (n : Node) : Doc :=
  let entries := fun (a : Option String) (es : List (Node × Node)) =>
    (entriesOf env bound a es).toOption.getD []
  let scalar := fun (k : Node) => ((plainValue env [] bound k).toOption.bind id).getD .null
  match n.tag, n with
  | .sequence, .sequence _ _ ns => .list (ns.map sub)
  | .mapping, .mapping a _ es =>
    .map (Doc.distinctEntries ((entries a es).map fun (k, v) => (scalar k, sub v)))
  | .set, .mapping a _ es =>
    .set ((entries a es).foldl (fun ms e => Doc.putMember (scalar e.1) ms) [])
  | .orderedMap, .sequence _ _ ns | .pairs, .sequence _ _ ns =>
    .pairs (ns.filterMap fun n => (onlyPair? env n).map fun (k, v) => (sub k, sub v))
  | _, _ => .scalar (scalar n)

/-- The documents of anchors. -/
abbrev Finished := List (String × Doc)

/-- The document of a tree without faults.  `path` holds the anchors of the collections around a
node. -/
def build (env : Anchors) (done : Finished) (bound : Nat) : Nat → List String → Node → Doc
  | 0, _, _ => .scalar .null
  | fuel + 1, path, n =>
    let n := n.target env
    match n.anchor?.bind fun a => lookup? a done with
    | some d => d
    | none =>
      match n.tag.isCollection, n.anchor? with
      | true, some a =>
        .shared (anchorId env a)
          (if unfoldings ≤ path.count a then .scalar .null
          else buildWith env bound (build env done bound fuel (a :: path)) n)
      | _, _ => buildWith env bound (build env done bound fuel path) n

/-- The documents of the anchors from which no way leads into a circle.  Each is built once. -/
def finished (env : Anchors) (bound : Nat) : Finished :=
  env.foldl (fun done e =>
    if e.2.references.all fun a => (lookup? a done).isSome then
      (e.1, build env done bound bound [] e.2) :: done
    else done) []

/-- The document of a tree of nodes. -/
def Node.toDoc (n : Node) : Except Fault Doc := do
  let env := n.anchors
  let bound := wayBound env n (unfoldings + 1)
  check env bound n
  pure (build env (finished env bound) bound bound [] n)

end Yaml
end WorkflowKit
