/-
# Placeholders

A placeholder stands between `{{` and `}}`, with at least one character and no brace `}` between
them.  Reading goes from left to right: what one placeholder takes is not looked at again.

A placeholder refers to a property or to an environment variable if it consists of `property.` or
`env.` and a key, with blanks around them.  A key begins with an ASCII letter, a digit or an
underscore, and goes on with these, points and hyphens.
-/

import WorkflowKit.Text.Blank

namespace WorkflowKit
namespace Template

/-- What a key belongs to. -/
inductive Root
  /-- The properties. -/
  | property
  /-- The environment. -/
  | env
  deriving DecidableEq, Repr

/-- The word for a root. -/
def Root.text : Root → String
  | .property => "property"
  | .env => "env"

/-- A root and a key. -/
structure Target where
  /-- What the key belongs to. -/
  root : Root
  /-- The key. -/
  key : String
  deriving DecidableEq, Repr

/-- The placeholder at the start of a text. -/
def placeholder? : List CodePoint → Option (List CodePoint)
  | .char '\x7b' :: .char '\x7b' :: rest =>
    let body := rest.takeWhile (· ≠ .char '\x7d')
    if body.isEmpty then none
    else match rest.drop body.length with
      | .char '\x7d' :: .char '\x7d' :: _ =>
        some (.char '\x7b' :: .char '\x7b' :: (body ++ [.char '\x7d', .char '\x7d']))
      | _ => none
  | _ => none

/-- A character with which a key may begin. -/
def startsKey (c : Char) : Bool := c.isAlphanum || c == '_'

/-- A character with which a key may go on. -/
def continuesKey (c : Char) : Bool := startsKey c || c == '.' || c == '-'

/-- Whether a text is a key. -/
def isKey : List Char → Bool
  | [] => false
  | c :: cs => startsKey c && cs.all continuesKey

/-- What follows a word and a point at the start of a text. -/
def afterRoot? (r : Root) (cs : List Char) : Option (List Char) :=
  let w := r.text.toList ++ ['.']
  if w.isPrefixOf cs then some (cs.drop w.length) else none

/-- The root and the key of a text. -/
def target? (cs : List Char) : Option Target :=
  let of := fun (r : Root) =>
    (afterRoot? r cs).bind fun k => if isKey k then some ⟨r, String.ofList k⟩ else none
  (of .property).or (of .env)

/-- What a placeholder refers to. -/
def placeholderTarget? (ps : List CodePoint) : Option Target :=
  (((ps.drop 2).dropLast.dropLast).mapM CodePoint.char?).bind fun cs => target? (Text.strip cs)

/-- A part of a text. -/
inductive Piece
  /-- Code points that stand for themselves. -/
  | plain (ps : List CodePoint)
  /-- A placeholder that refers to something. -/
  | reference (ps : List CodePoint) (target : Target)
  deriving DecidableEq, Repr

/-- The code points of a part. -/
def Piece.points : Piece → List CodePoint
  | .plain ps => ps
  | .reference ps _ => ps

/-- The parts of a text.  The first argument counts the code points that belong to the placeholder
before. -/
def piecesFrom : Nat → List CodePoint → List Piece
  | _, [] => []
  | taken + 1, _ :: ps => piecesFrom taken ps
  | 0, p :: ps =>
    match placeholder? (p :: ps) with
    | none => .plain [p] :: piecesFrom 0 ps
    | some full =>
      (match placeholderTarget? full with
        | some t => Piece.reference full t
        | none => .plain full) :: piecesFrom (full.length - 1) ps

/-- The parts of a text. -/
def pieces (s : Text) : List Piece := piecesFrom 0 s.points

/-- A placeholder of a text. -/
structure Reference where
  /-- The placeholder. -/
  text : Text
  /-- What it refers to. -/
  target : Target
  /-- Where it begins. -/
  start : Nat
  /-- Where the text goes on after it. -/
  stop : Nat
  deriving DecidableEq, Repr

/-- The placeholders among parts, the first of which begins at `pos`. -/
def referencesFrom (pos : Nat) : List Piece → List Reference
  | [] => []
  | .plain ps :: rest => referencesFrom (pos + ps.length) rest
  | .reference ps t :: rest =>
    ⟨⟨ps⟩, t, pos, pos + ps.length⟩ :: referencesFrom (pos + ps.length) rest

/-- The placeholders of a text that refer to something. -/
def references (s : Text) : List Reference := referencesFrom 0 (pieces s)

end Template
end WorkflowKit
