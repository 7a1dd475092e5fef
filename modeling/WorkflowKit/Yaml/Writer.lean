/-
# Writing YAML

A value is written in block style: an entry or an item on a line of its own, indented by two blanks
for each mapping around it.  The items of a list under a key are not indented further.  A key that
is long, empty or has several lines stands after `?`, and its value after `:` on the next line.
-/

import WorkflowKit.Value
import WorkflowKit.Yaml.Page

namespace WorkflowKit
namespace Yaml

/-- A floating-point number: its text has a point. -/
def floatForm (x : Number.Binary64) : List Char :=
  match x with
  | .nan _ => ".nan".toList
  | .infinite s => (if s then "-.inf" else ".inf").toList
  | x =>
    let cs := x.text
    if cs.contains '.' then cs
    else cs.takeWhile (· ≠ 'e') ++ ".0".toList ++ cs.dropWhile (· ≠ 'e')

/-- Where a node stands. -/
structure Position where
  /-- The indentation of the block around the node, if there is one. -/
  indent : Option Nat
  /-- Whether the node is a value of a mapping. -/
  inMapping : Bool

/-- The indentation of the lines of a scalar. -/
def Position.scalarIndent (at_ : Position) : Nat :=
  match at_.indent with
  | none => 2
  | some n => n + 2

/-- The indentation of a block; `level` keeps that of the block around it. -/
def Position.blockIndent (at_ : Position) (level : Bool) : Nat :=
  match at_.indent with
  | none => 0
  | some n => if level then n else n + 2

/-- A text as a value, or as a key after `?`. -/
def writeText (at_ : Position) (t : Text) (p : Page) : Page :=
  p.styled (styleOf false t) ⟨at_.scalarIndent, true⟩ t

/-- A text as a key on one line. -/
def writeKey (indent : Nat) (t : Text) (p : Page) : Page :=
  p.styled (styleOf true t) ⟨indent + 2, false⟩ t

mutual

/-- Writes a value. -/
def writeNode (at_ : Position) (p : Page) : Value → Page
  | .null => p.plain ⟨at_.scalarIndent, true⟩ "null".toList
  | .bool b => p.plain ⟨at_.scalarIndent, true⟩ (if b then "true" else "false").toList
  | .int n => p.plain ⟨at_.scalarIndent, true⟩ (Number.intText n)
  | .float x => p.plain ⟨at_.scalarIndent, true⟩ (floatForm x)
  | .text s => writeText at_ s p
  | .list [] => (p.indicator ['['] true true false).indicator [']'] false false false
  | .list vs =>
    writeItems (at_.blockIndent (at_.inMapping && !p.fresh)) p vs
  | .map [] => (p.indicator ['\x7b'] true true false).indicator ['\x7d'] false false false
  | .map es => writeEntries (at_.blockIndent false) p es

/-- Writes the items of a list. -/
def writeItems (indent : Nat) (p : Page) : List Value → Page
  | [] => p
  | v :: vs =>
    let p := (p.indent indent).indicator ['-'] true false true
    writeItems indent (writeNode ⟨some indent, false⟩ p v) vs

/-- Writes the entries of a mapping. -/
def writeEntries (indent : Nat) (p : Page) : List (Text × Value) → Page
  | [] => p
  | (k, v) :: es =>
    let p := p.indent indent
    let p :=
      if isSimpleKey k then (writeKey indent k p).indicator [':'] false false false
      else
        let p := p.indicator ['?'] true false true
        ((writeText ⟨some indent, true⟩ k p).indent indent).indicator [':'] true false true
    writeEntries indent (writeNode ⟨some indent, true⟩ p v) es

end

/-- The YAML text of a value, unless it holds an integer that is too long to be written. -/
def write (v : Value) : Except Number.DigitFault String :=
  if v.holdsLongInt then .error .writing
  else .ok ((writeNode ⟨none, false⟩ .empty v).indent 0).text

end Yaml
end WorkflowKit
