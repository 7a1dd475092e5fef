/-
# Schemas

A schema says what a plain value has to look like.  It is a list of clauses, all of which have to
be met, and a clause is a list of rules:

| rule | met by |
| --- | --- |
| `kind k` | a value of the kind `k` |
| `required ks` | a mapping with all keys `ks` |
| `fields fs` | a mapping whose values under keys of `fs` meet the schemas there |
| `everyField s` | a mapping whose values meet `s` |
| `items s` | a list whose items meet `s` |
| `oneOf ws` | one of the texts `ws` |
| `fixed l` | exactly `l` |
| `atLeast n` | a number that is not less than `n` |
| `holds s` | a list with an item that meets `s` |

A rule about mappings is met by every value that is no mapping, and so are those about lists and
numbers.  A clause may carry a notice, the wording used when one of its own rules is not met.

Schemas refer to each other by names of a type `N`, and only where a rule goes on to a part of the
value.  So a chain of references is never longer than the value is deep.
-/

import WorkflowKit.Value

namespace WorkflowKit
namespace Schema

/-- The kinds that a rule can ask for. -/
inductive Kind
  /-- A text. -/
  | text
  /-- An integer, also one that is written with a fraction of zero. -/
  | integer
  /-- A truth value. -/
  | truth
  /-- A mapping. -/
  | mapping
  /-- A list. -/
  | list
  deriving DecidableEq, Repr

/-- The word for a kind. -/
def Kind.word : Kind → String
  | text => "string"
  | integer => "integer"
  | truth => "boolean"
  | mapping => "object"
  | list => "array"

/-- Whether a value is of a kind.  Truth values are no integers. -/
def Kind.admits : Kind → Value → Bool
  | text, .text _ => true
  | integer, .int _ => true
  | integer, .float x => x.toInt?.isSome
  | truth, .bool _ => true
  | mapping, .map _ => true
  | list, .list _ => true
  | _, _ => false

/-- A value that a rule can fix. -/
inductive Literal
  /-- A text. -/
  | text (s : Text)
  /-- A truth value. -/
  | truth (b : Bool)
  deriving DecidableEq, Repr

/-- The value of a literal. -/
def Literal.value : Literal → Value
  | text s => .text s
  | truth b => .bool b

/-- Whether a value is exactly a literal. -/
def Literal.admits : Literal → Value → Bool
  | text s, .text t => s == t
  | truth b, .bool c => b == c
  | _, _ => false

/-- Whether a value is a number less than a bound. -/
def isBelow (bound : Int) : Value → Bool
  | .int n => n < bound
  | .float x => x.compareInt? bound == some .lt
  | _ => false

end Schema

mutual

/-- What is asked of a value. -/
inductive Schema (N : Type)
  /-- All clauses are to be met. -/
  | mk (clauses : List (Schema.Clause N))

/-- Rules with a common notice. -/
inductive Schema.Clause (N : Type)
  /-- All rules are to be met; otherwise the notice is given, if there is one. -/
  | mk (notice : Option String) (rules : List (Schema.Rule N))

/-- A rule. -/
inductive Schema.Rule (N : Type)
  /-- The value is of a kind. -/
  | kind (k : Schema.Kind)
  /-- A mapping has these keys. -/
  | required (keys : List String)
  /-- The values of a mapping under these keys meet schemas. -/
  | fields (fs : List (String × Schema.Target N))
  /-- All values of a mapping meet a schema. -/
  | everyField (t : Schema.Target N)
  /-- All items of a list meet a schema. -/
  | items (t : Schema.Target N)
  /-- The value is one of some texts. -/
  | oneOf (words : List String)
  /-- The value is exactly a literal. -/
  | fixed (l : Schema.Literal)
  /-- A number has a lower bound. -/
  | atLeast (n : Int)
  /-- Some item of a list meets a schema. -/
  | holds (t : Schema.Target N)

/-- The schema of a part of a value. -/
inductive Schema.Target (N : Type)
  /-- The schema of a name. -/
  | named (name : N)
  /-- A schema that has no name. -/
  | own (s : Schema N)

end

namespace Schema

variable {N : Type}

/-- The clauses. -/
def clauses : Schema N → List (Clause N)
  | mk cs => cs

/-- A schema of one clause without a notice. -/
def ofRules (rules : List (Rule N)) : Schema N := mk [.mk none rules]

/-- The notice of a clause. -/
def Clause.notice : Clause N → Option String
  | mk n _ => n

/-- The rules of a clause. -/
def Clause.rules : Clause N → List (Rule N)
  | mk _ rs => rs

/-- The schema that is meant, where `define` gives the schemas of the names. -/
def Target.schema (define : N → Schema N) : Target N → Schema N
  | named n => define n
  | own s => s

end Schema
end WorkflowKit
