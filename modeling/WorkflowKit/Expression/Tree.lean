/-
# Expression trees

Expressions are read by a grammar that is larger than what can be evaluated.  The forms that have
a value are constants, variables, `and`, `or`, signs, comparisons, lists, tuples, attributes and
calls.  The others are kept with their parts, under the name by which a message calls them.
-/

import WorkflowKit.Number.Binary64
import WorkflowKit.Text

namespace WorkflowKit
namespace Expression

open Number (Binary64)

/-- A constant. -/
inductive Constant
  /-- The absent value. -/
  | null
  /-- A truth value. -/
  | bool (b : Bool)
  /-- An integer. -/
  | int (n : Nat)
  /-- A floating-point number. -/
  | float (x : Binary64)
  /-- A text. -/
  | text (s : Text)
  /-- An imaginary number. -/
  | imaginary
  /-- A sequence of bytes. -/
  | bytes
  /-- Three points. -/
  | ellipsis
  deriving DecidableEq, Repr, Inhabited

/-- A sign before an operand. -/
inductive Sign
  /-- The opposite truth value. -/
  | not
  /-- The opposite number. -/
  | minus
  /-- The number itself. -/
  | plus
  /-- The opposite bits. -/
  | invert
  deriving DecidableEq, Repr

/-- A comparison. -/
inductive Comparison
  /-- Equal. -/
  | eq
  /-- Not equal. -/
  | ne
  /-- Less. -/
  | lt
  /-- Less or equal. -/
  | le
  /-- Greater. -/
  | gt
  /-- Greater or equal. -/
  | ge
  /-- In a container. -/
  | isIn
  /-- Not in a container. -/
  | notIn
  /-- One and the same. -/
  | same
  /-- Not one and the same. -/
  | notSame
  deriving DecidableEq, Repr

/-- The forms without a value. -/
inductive Form
  /-- An operator between two numbers. -/
  | binary
  /-- One of two expressions, picked by a third. -/
  | conditional
  /-- A function without a name. -/
  | lambda
  /-- An expression that also gets a name. -/
  | named
  /-- Waiting for a result. -/
  | await
  /-- Handing out a value. -/
  | yield
  /-- Handing out the values of another expression. -/
  | yieldFrom
  /-- A mapping. -/
  | dict
  /-- A set. -/
  | set
  /-- A list computed item by item. -/
  | listOf
  /-- A set computed member by member. -/
  | setOf
  /-- A mapping computed entry by entry. -/
  | dictOf
  /-- Values computed one by one. -/
  | generator
  /-- The items of a list in place of the list. -/
  | starred
  /-- An item or a part of a list. -/
  | subscript
  /-- A text with expressions in it. -/
  | formatted
  deriving DecidableEq, Repr

/-- The name of a form in a message. -/
def Form.name : Form → String
  | binary => "BinOp"
  | conditional => "IfExp"
  | lambda => "Lambda"
  | named => "NamedExpr"
  | await => "Await"
  | yield => "Yield"
  | yieldFrom => "YieldFrom"
  | dict => "Dict"
  | set => "Set"
  | listOf => "ListComp"
  | setOf => "SetComp"
  | dictOf => "DictComp"
  | generator => "GeneratorExp"
  | starred => "Starred"
  | subscript => "Subscript"
  | formatted => "JoinedStr"

end Expression

open Expression in
/-- An expression tree. -/
inductive Expr
  /-- A constant. -/
  | constant (c : Constant)
  /-- A variable. -/
  | name (id : String)
  /-- All operands are true. -/
  | all (operands : List Expr)
  /-- At least one operand is true. -/
  | any (operands : List Expr)
  /-- A sign before an operand. -/
  | signed (sign : Sign) (operand : Expr)
  /-- A chain of comparisons. -/
  | compare (first : Expr) (rest : List (Comparison × Expr))
  /-- A list. -/
  | list (items : List Expr)
  /-- A tuple. -/
  | tuple (items : List Expr)
  /-- An attribute. -/
  | member (target : Expr) (name : String)
  /-- A call, with the arguments before the first one by name, and those from there on. -/
  | call (function : Expr) (arguments named : List Expr)
  /-- A form without a value, and its parts. -/
  | other (form : Form) (parts : List Expr)
  deriving Repr, Inhabited

namespace Expr

mutual

/-- The text constants of a tree, from left to right. -/
def texts : Expr → List Text
  | constant (.text s) => [s]
  | constant _ => []
  | name _ => []
  | all es => textsOf es
  | any es => textsOf es
  | signed _ e => e.texts
  | compare e rest => e.texts ++ textsOfChain rest
  | list es => textsOf es
  | tuple es => textsOf es
  | member e _ => e.texts
  | call f es ns => f.texts ++ textsOf es ++ textsOf ns
  | other _ es => textsOf es

/-- The text constants of several trees. -/
def textsOf : List Expr → List Text
  | [] => []
  | e :: es => e.texts ++ textsOf es

/-- The text constants of the operands of a chain. -/
def textsOfChain : List (Expression.Comparison × Expr) → List Text
  | [] => []
  | (_, e) :: rest => e.texts ++ textsOfChain rest

end

mutual

/-- The variables of a tree, from left to right. -/
def names : Expr → List String
  | constant _ => []
  | name x => [x]
  | all es => namesOf es
  | any es => namesOf es
  | signed _ e => e.names
  | compare e rest => e.names ++ namesOfChain rest
  | list es => namesOf es
  | tuple es => namesOf es
  | member e _ => e.names
  | call f es ns => f.names ++ namesOf es ++ namesOf ns
  | other _ es => namesOf es

/-- The variables of several trees. -/
def namesOf : List Expr → List String
  | [] => []
  | e :: es => e.names ++ namesOf es

/-- The variables of the operands of a chain. -/
def namesOfChain : List (Expression.Comparison × Expr) → List String
  | [] => []
  | (_, e) :: rest => e.names ++ namesOfChain rest

end

mutual

/-- The integer constants of a tree, from left to right. -/
def ints : Expr → List Nat
  | constant (.int n) => [n]
  | constant _ => []
  | name _ => []
  | all es => intsOf es
  | any es => intsOf es
  | signed _ e => e.ints
  | compare e rest => e.ints ++ intsOfChain rest
  | list es => intsOf es
  | tuple es => intsOf es
  | member e _ => e.ints
  | call f es ns => f.ints ++ intsOf es ++ intsOf ns
  | other _ es => intsOf es

/-- The integer constants of several trees. -/
def intsOf : List Expr → List Nat
  | [] => []
  | e :: es => e.ints ++ intsOf es

/-- The integer constants of the operands of a chain. -/
def intsOfChain : List (Expression.Comparison × Expr) → List Nat
  | [] => []
  | (_, e) :: rest => e.ints ++ intsOfChain rest

end

end Expr
end WorkflowKit
