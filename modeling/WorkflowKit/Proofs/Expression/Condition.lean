/-
# Conditions on a trigger

The expressions that events are written with: checks of one attribute of the trigger, joined by `&&`
to clauses and by `||` to conditions.  A check compares the attribute with a text, or looks for it
in a list of texts, and `!` in front of it asks for the opposite.

`Condition.text` writes a condition down, `Condition.holds` reads its truth off the trigger.  A
missing attribute equals no text.
-/

import WorkflowKit.Expression.Tree
import WorkflowKit.Workflow

namespace WorkflowKit
namespace Expression

/-! ### Parts of a text -/

/-- The text of a character inside single quotes. -/
def escaped : Char → List Char
  | '\\' => ['\\', '\\']
  | '\x27' => ['\\', '\x27']
  | '\n' => ['\\', 'n']
  | '\r' => ['\\', 'r']
  | '\x00' => ['\\', 'x', '0', '0']
  | c => [c]

/-- The text of a code point inside single quotes. -/
def escapedPoint : CodePoint → List CodePoint
  | .char c => (escaped c).map .char
  | .half n => [.half n]

/-- A part of the text of a condition. -/
inductive Part
  /-- What stands outside of quotes. -/
  | plain (cs : List Char)
  /-- A text between single quotes. -/
  | literal (s : Text)
  deriving DecidableEq, Repr

/-- The code points of a part. -/
def Part.points : Part → List CodePoint
  | plain cs => cs.map .char
  | literal s => .char '\x27' :: (s.points.flatMap escapedPoint ++ [.char '\x27'])

/-- Texts with commas between them. -/
def listed : List Text → List Part
  | [] => []
  | s :: ss => .literal s :: ss.flatMap fun s => [.plain [',', ' '], .literal s]

/-! ### Conditions -/

/-- An attribute of a trigger, by the names that expressions have for it. -/
inductive Attribute
  /-- The name. -/
  | name
  /-- The source. -/
  | source
  /-- The type. -/
  | type
  /-- The correlation token, with an underscore. -/
  | snakeToken
  /-- The correlation token, with a capital letter. -/
  | camelToken
  deriving DecidableEq, Repr

namespace Attribute

/-- How an attribute is written. -/
def chars : Attribute → List Char
  | name => ['n', 'a', 'm', 'e']
  | source => ['s', 'o', 'u', 'r', 'c', 'e']
  | type => ['t', 'y', 'p', 'e']
  | snakeToken =>
    ['c', 'o', 'r', 'r', 'e', 'l', 'a', 't', 'i', 'o', 'n', '_', 't', 'o', 'k', 'e', 'n']
  | camelToken =>
    ['c', 'o', 'r', 'r', 'e', 'l', 'a', 't', 'i', 'o', 'n', 'T', 'o', 'k', 'e', 'n']

/-- The attribute of a trigger. -/
def ofTrigger (t : Trigger) : Attribute → Option Text
  | name => t.name
  | source => t.source
  | type => t.type
  | snakeToken => t.correlationToken
  | camelToken => t.correlationToken

end Attribute

/-- The first operand of a check: an attribute, or an attribute behind `trigger.`. -/
structure Subject where
  /-- The attribute. -/
  attr : Attribute
  /-- Whether `trigger.` stands before it. -/
  qualified : Bool
  deriving DecidableEq, Repr

/-- How a subject is written. -/
def Subject.chars (s : Subject) : List Char :=
  (if s.qualified then ['t', 'r', 'i', 'g', 'g', 'e', 'r', '.'] else []) ++ s.attr.chars

/-- What a check asks of an attribute. -/
inductive Test
  /-- Whether it equals a text, or differs from it; `sign` tells `==` and `!=` from `eq` and
  `ne`. -/
  | equals (negated sign : Bool) (s : Text)
  /-- Whether it is one of several texts, or none of them. -/
  | isIn (negated : Bool) (ss : List Text)
  deriving DecidableEq, Repr

namespace Test

/-- The operator of an equation. -/
def operator (negated sign : Bool) : List Char :=
  match negated, sign with
  | false, false => ['e', 'q']
  | true, false => ['n', 'e']
  | false, true => ['=', '=']
  | true, true => ['!', '=']

/-- How the word for membership is written. -/
def membership (negated : Bool) : List Char :=
  if negated then ['n', 'o', 't', ' ', 'i', 'n'] else ['i', 'n']

/-- How a test is written, behind its subject. -/
def parts : Test → List Part
  | equals negated sign s => [.plain (' ' :: (operator negated sign ++ [' '])), .literal s]
  | isIn negated ss =>
    .plain (' ' :: (membership negated ++ [' ', '['])) :: (listed ss ++ [.plain [']']])

/-- Whether an attribute passes a test. -/
def holds (v : Option Text) : Test → Bool
  | equals negated _ s => (v == some s) != negated
  | isIn negated ss => (ss.any fun s => v == some s) != negated

end Test

/-- A check of one attribute. -/
structure Check where
  /-- Whether `!` stands before it. -/
  negated : Bool
  /-- The attribute. -/
  subject : Subject
  /-- What is asked of it. -/
  test : Test
  deriving DecidableEq, Repr

namespace Check

/-- How a check is written. -/
def parts (c : Check) : List Part :=
  .plain ((if c.negated then ['!'] else []) ++ c.subject.chars) :: c.test.parts

/-- Whether a trigger passes a check. -/
def holds (t : Trigger) (c : Check) : Bool :=
  c.test.holds (c.subject.attr.ofTrigger t) != c.negated

end Check

/-- Checks with `&&` between them. -/
structure Clause where
  /-- The first check. -/
  first : Check
  /-- The checks behind it. -/
  rest : List Check
  deriving DecidableEq, Repr

namespace Clause

/-- How a clause is written. -/
def parts (k : Clause) : List Part :=
  k.first.parts ++ k.rest.flatMap fun c => .plain [' ', '&', '&', ' '] :: c.parts

/-- Whether a trigger passes all checks. -/
def holds (t : Trigger) (k : Clause) : Bool := (k.first :: k.rest).all (Check.holds t)

end Clause

/-- Clauses with `||` between them. -/
structure Condition where
  /-- The first clause. -/
  first : Clause
  /-- The clauses behind it. -/
  rest : List Clause
  deriving DecidableEq, Repr

namespace Condition

/-- How a condition is written. -/
def parts (c : Condition) : List Part :=
  c.first.parts ++ c.rest.flatMap fun k => .plain [' ', '|', '|', ' '] :: k.parts

/-- The text of a condition. -/
def text (c : Condition) : Text := ⟨c.parts.flatMap Part.points⟩

/-- Whether a trigger fulfils a clause. -/
def holds (t : Trigger) (c : Condition) : Bool := (c.first :: c.rest).any (Clause.holds t)

end Condition
end Expression
end WorkflowKit
