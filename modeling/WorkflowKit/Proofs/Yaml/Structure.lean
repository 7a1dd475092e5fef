/-
# What the structure of a YAML text fails with

Tokens are read into a tree of nodes or are not YAML (`ofTokens?_yields`), if the fault that ends
them is of this kind.  No step of reading fails otherwise, so that a whole run does not.
-/

import WorkflowKit.Proofs.Outcome
import WorkflowKit.Yaml.Node

namespace WorkflowKit
namespace Yaml
namespace Node

/-- A step of reading that fails only if the text is not YAML. -/
def Sober {α : Type} (x : Reading α) : Prop :=
  ∀ p, Yields (· = .malformed) (fun _ => True) (x p)

namespace Sober

variable {α β : Type} {x : Reading α} {f : α → Reading β}

/-- A result is no failure. -/
theorem pure (a : α) : Sober (pure a) := fun _ => trivial

/-- The failure of the reader says that the text is not YAML. -/
theorem fail : Sober (α := α) fail := fun _ => rfl

/-- Steps one after the other. -/
theorem bind (hx : Sober x) (hf : ∀ a, Sober (f a)) : Sober (x >>= f) := fun p =>
  (hx p).bind fun r _ => hf r.1 r.2

/-- A choice between two steps. -/
theorem ite {p : Prop} [Decidable p] {y : Reading α} (hx : Sober x) (hy : Sober y) :
    Sober (if p then x else y) := by
  split
  · exact hx
  · exact hy

/-- Looking at the progress never fails. -/
theorem get : Sober get := fun _ => trivial

/-- Changing the progress never fails. -/
theorem modify (g : Progress → Progress) : Sober (modify g) := fun _ => trivial

/-- Passing over a token never fails. -/
theorem shift : Sober shift := modify _

/-- The place of the reader can always be told. -/
theorem place : Sober place := get.bind fun _ => pure _

/-- Where no token is left, the fault that ended them counts: here that the text is malformed. -/
theorem peek : Sober (peek .malformed) := by
  refine get.bind fun p => ?_
  split
  · exact pure _
  · exact fun _ => rfl

end Sober

/-- A tag whose handle is not declared is not YAML. -/
theorem fullTag_sober (handle : Option String) (suffix : String) :
    Sober (fullTag handle suffix) := by
  unfold fullTag
  split
  · exact .pure _
  · refine Sober.get.bind fun p => ?_
    split
    · exact .pure _
    · exact .fail

/-- The tag and the anchor of a node, in either order. -/
theorem properties_sober : Sober (properties .malformed) := by
  unfold properties
  refine Sober.peek.bind fun t => ?_
  split
  · refine Sober.shift.bind fun _ => Sober.peek.bind fun t => ?_
    split
    · exact Sober.shift.bind fun _ => (fullTag_sober _ _).bind fun _ => .pure _
    · exact .pure _
  · refine Sober.shift.bind fun _ => Sober.peek.bind fun t => ?_
    split
    · exact Sober.shift.bind fun _ => (fullTag_sober _ _).bind fun _ => .pure _
    · exact (fullTag_sober _ _).bind fun _ => .pure _
  · exact .pure _

/-- An anchor that is given twice is not YAML. -/
theorem noteAnchor_sober (a : Option String) : Sober (noteAnchor a) := by
  unfold noteAnchor
  split
  · exact .pure _
  · exact Sober.get.bind fun _ => .ite .fail (.modify _)

/-- The rest of a collection behind its anchor. -/
theorem collection_sober {α : Type} {x : Reading α} (a : Option String) (f : α → Node)
    (hx : Sober x) :
    Sober (do
      noteAnchor a
      let r ← x
      pure (f r)) :=
  (noteAnchor_sober a).bind fun _ => hx.bind fun _ => .pure _

/-- A scalar behind its anchor. -/
theorem scalar_sober (a : Option String) (f : Nat → Node) :
    Sober (do
      noteAnchor a
      let n ← place
      pure (f n)) :=
  collection_sober a f .place

/-- The comma before an item that is not the first. -/
theorem comma_sober (first : Bool) {α : Type} {x : Reading α} (hx : Sober x) :
    Sober (do
      if !first then
        if (← peek .malformed) == .flowEntry then shift else fail
      x) := by
  dsimp only
  split
  · exact Sober.peek.bind fun t => .ite (Sober.shift.bind fun _ => hx) (Sober.fail.bind fun _ => hx)
  · exact hx

mutual

/-- A node of any kind, by induction on the fuel together with its items and entries. -/
theorem node_sober (block level : Bool) (fuel : Nat) :
    Sober (node .malformed block level fuel) := by
  match fuel with
  | 0 => exact .fail
  | fuel + 1 =>
    rw [node]
    refine Sober.peek.bind fun t => ?_
    split
    · exact Sober.shift.bind fun _ => Sober.get.bind fun _ => .ite (.pure _) .fail
    · refine properties_sober.bind fun p => Sober.peek.bind fun t => ?_
      refine .ite (collection_sober _ _ (levelItems_sober fuel)) ?_
      split
      · exact Sober.shift.bind fun _ => scalar_sober _ _
      · exact Sober.shift.bind fun _ => collection_sober _ _ (flowItems_sober true fuel)
      · exact Sober.shift.bind fun _ => collection_sober _ _ (flowEntries_sober true fuel)
      · refine .ite (Sober.shift.bind fun _ => collection_sober _ _ (blockItems_sober fuel)) ?_
        refine .ite (Sober.shift.bind fun _ => collection_sober _ _ (blockEntries_sober fuel)) ?_
        exact .ite (scalar_sober _ _) .fail

/-- A node, or nothing where one of some tokens stands. -/
theorem nodeUnless_sober (stops : List Token) (block level : Bool) (fuel : Nat) :
    Sober (nodeUnless .malformed stops block level fuel) := by
  match fuel with
  | 0 => exact .fail
  | fuel + 1 =>
    rw [nodeUnless]
    exact Sober.peek.bind fun _ => .ite (.pure _) (node_sober block level fuel)

/-- The items of a list in block style. -/
theorem blockItems_sober (fuel : Nat) : Sober (blockItems .malformed fuel) := by
  match fuel with
  | 0 => exact .fail
  | fuel + 1 =>
    rw [blockItems]
    refine Sober.peek.bind fun t => ?_
    split
    · exact Sober.shift.bind fun _ => (nodeUnless_sober _ true false fuel).bind fun _ =>
        (blockItems_sober fuel).bind fun _ => .pure _
    · exact Sober.shift.bind fun _ => .pure _
    · exact .fail

/-- The items of a list that is not indented further than the mapping around it. -/
theorem levelItems_sober (fuel : Nat) : Sober (levelItems .malformed fuel) := by
  match fuel with
  | 0 => exact .fail
  | fuel + 1 =>
    rw [levelItems]
    refine Sober.peek.bind fun t => ?_
    split
    · exact Sober.shift.bind fun _ => (nodeUnless_sober _ true false fuel).bind fun _ =>
        (levelItems_sober fuel).bind fun _ => .pure _
    · exact .pure _

/-- The value behind a colon, or nothing where it is missing. -/
theorem valueAfter_sober (stops : List Token) (block level : Bool) (fuel : Nat) :
    Sober (valueAfter .malformed stops block level fuel) := by
  match fuel with
  | 0 => exact .fail
  | fuel + 1 =>
    rw [valueAfter]
    refine Sober.peek.bind fun t => ?_
    split
    · exact Sober.shift.bind fun _ => nodeUnless_sober stops block level fuel
    · exact .pure _

/-- The entries of a mapping in block style. -/
theorem blockEntries_sober (fuel : Nat) : Sober (blockEntries .malformed fuel) := by
  match fuel with
  | 0 => exact .fail
  | fuel + 1 =>
    rw [blockEntries]
    refine Sober.peek.bind fun t => ?_
    split
    · exact Sober.shift.bind fun _ => (nodeUnless_sober _ true true fuel).bind fun _ =>
        (valueAfter_sober _ true true fuel).bind fun _ =>
          (blockEntries_sober fuel).bind fun _ => .pure _
    · exact Sober.shift.bind fun _ => .pure _
    · exact .fail

/-- The items of a list in brackets. -/
theorem flowItems_sober (first : Bool) (fuel : Nat) :
    Sober (flowItems .malformed first fuel) := by
  match fuel with
  | 0 => exact .fail
  | fuel + 1 =>
    rw [flowItems]
    refine Sober.peek.bind fun t => .ite (Sober.shift.bind fun _ => .pure _) ?_
    refine comma_sober first (Sober.peek.bind fun t => ?_)
    split
    · exact Sober.shift.bind fun _ => (nodeUnless_sober _ false false fuel).bind fun _ =>
        (valueAfter_sober _ false false fuel).bind fun _ =>
          (flowItems_sober false fuel).bind fun _ => .pure _
    · exact Sober.shift.bind fun _ => .pure _
    · exact (node_sober false false fuel).bind fun _ =>
        (flowItems_sober false fuel).bind fun _ => .pure _

/-- The entries of a mapping in braces. -/
theorem flowEntries_sober (first : Bool) (fuel : Nat) :
    Sober (flowEntries .malformed first fuel) := by
  match fuel with
  | 0 => exact .fail
  | fuel + 1 =>
    rw [flowEntries]
    refine Sober.peek.bind fun t => .ite (Sober.shift.bind fun _ => .pure _) ?_
    refine comma_sober first (Sober.peek.bind fun t => ?_)
    split
    · exact Sober.shift.bind fun _ => (nodeUnless_sober _ false false fuel).bind fun _ =>
        (valueAfter_sober _ false false fuel).bind fun _ =>
          (flowEntries_sober false fuel).bind fun _ => .pure _
    · exact Sober.shift.bind fun _ => .pure _
    · exact (node_sober false false fuel).bind fun _ =>
        (flowEntries_sober false fuel).bind fun _ => .pure _

end

/-- A second declaration of the version, or of a handle, is not YAML. -/
theorem directives_sober (fuel : Nat) (versioned : Bool) (handles : List (String × String)) :
    Sober (directives .malformed fuel versioned handles) := by
  induction fuel generalizing versioned handles with
  | zero => exact .fail
  | succ fuel ih =>
    rw [directives]
    refine Sober.peek.bind fun t => ?_
    split
    · exact Sober.shift.bind fun _ => ih _ _
    · exact Sober.shift.bind fun _ => .ite .fail (ih _ _)
    · exact Sober.shift.bind fun _ => .ite .fail (ih _ _)
    · exact .modify _

/-- The marks for the end of a document are passed over. -/
theorem skipEnds_sober (fuel : Nat) : Sober (skipEnds .malformed fuel) := by
  induction fuel with
  | zero => exact .fail
  | succ fuel ih =>
    rw [skipEnds]
    refine Sober.peek.bind fun t => ?_
    split
    · exact Sober.shift.bind fun _ => ih
    · exact .pure _

/-- What follows the only document has to be the end of the stream. -/
theorem theEnd_sober (fuel : Nat) : Sober (theEnd .malformed fuel) :=
  (skipEnds_sober fuel).bind fun _ => Sober.peek.bind fun _ => .ite (.pure _) .fail

/-- The text of one document, with all that stands around it. -/
theorem document_sober (fuel : Nat) : Sober (document .malformed fuel) := by
  have hend (n : Node) : Sober (do
      theEnd .malformed fuel
      pure (some n)) :=
    (theEnd_sober fuel).bind fun _ => .pure _
  have hstart : Sober (do
      directives .malformed fuel false []
      if (← peek .malformed) == .documentStart then
        shift
        let n ← if isOutside (← peek .malformed) then pure .empty
          else node .malformed true false fuel
        theEnd .malformed fuel
        pure (some n)
      else fail) := by
    refine (directives_sober _ _ _).bind fun _ => Sober.peek.bind fun t => .ite ?_ .fail
    refine Sober.shift.bind fun _ => Sober.peek.bind fun t => .ite ?_ ?_
    · exact (Sober.pure _).bind hend
    · exact (node_sober true false fuel).bind hend
  unfold document
  refine Sober.peek.bind fun t => ?_
  split
  · exact .pure _
  · exact hstart
  · exact hstart
  · exact (node_sober true false fuel).bind hend

/-- **Tokens are a tree of nodes, or they are not YAML.** -/
theorem ofTokens?_yields (ts : List Token) {fault : Option Fault}
    (h : ∀ f ∈ fault, f = .malformed) :
    Yields (· = .malformed) (fun _ => True) (ofTokens? ts fault) := by
  have hended : fault.getD .malformed = .malformed := by
    cases fault with
    | none => rfl
    | some f => exact h f rfl
  unfold ofTokens?
  rw [hended]
  exact (document_sober _ _).map fun _ _ => trivial

end Node
end Yaml
end WorkflowKit
