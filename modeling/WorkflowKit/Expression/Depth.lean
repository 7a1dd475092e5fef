/-
# How deep expressions are nested

Reading an expression and evaluating it both go down into its parts, and both go down only so far.
Each form takes a number of levels for each of its parts; a part in front of an operator takes none
when it is read.
-/

import WorkflowKit.Expression.Tree

namespace WorkflowKit
namespace Expression

/-- Why an expression is nested too deep. -/
inductive DepthFault
  /-- There are too many levels to read it. -/
  | reading
  /-- Its tree is too high. -/
  | tree
  /-- There are too many levels to evaluate it. -/
  | evaluation
  /-- The last level at which it can be evaluated is one too few to tell the kind of a part. -/
  | kindOfPart
  deriving DecidableEq, Repr

/-- The wording of a fault of depth. -/
def DepthFault.message : DepthFault → String
  | reading => ""
  | tree => "maximum recursion depth exceeded during ast construction"
  | evaluation => "maximum recursion depth exceeded"
  | kindOfPart => "maximum recursion depth exceeded in __instancecheck__"

/-- The greatest number of levels that are read below the outermost one. -/
def readingLimit : Nat := 5975

/-- The greatest height of a tree. -/
def heightLimit : Nat := 2969

/-- The greatest number of levels at which a tree is evaluated. -/
def evaluationLimit : Nat := 992

end Expression

namespace Expr

mutual

/-- The height of a tree: the number of parts on the longest way down. -/
def height : Expr → Nat
  | constant _ => 1
  | name _ => 1
  | all es => heightOf es + 1
  | any es => heightOf es + 1
  | signed _ e => e.height + 1
  | compare e rest => max e.height (heightOfChain rest) + 1
  | list es => heightOf es + 1
  | tuple es => heightOf es + 1
  | member e _ => e.height + 1
  | call f es ns => max f.height (max (heightOf es) (heightOf ns)) + 1
  | other _ es => heightOf es + 1

/-- The height of the highest of several trees. -/
def heightOf : List Expr → Nat
  | [] => 0
  | e :: es => max e.height (heightOf es)

/-- The height of the highest operand of a chain. -/
def heightOfChain : List (Expression.Comparison × Expr) → Nat
  | [] => 0
  | (_, e) :: rest => max e.height (heightOfChain rest)

end

open Expression in
/-- How many levels a form takes to read its first part, and how many to read the others. -/
def levelsOfForm : Form → Nat × Nat
  | .binary => (0, 2)
  | .conditional => (0, 1)
  | .lambda => (2, 2)
  | .await | .yield | .yieldFrom => (1, 1)
  | .subscript => (0, 24)
  | .starred => (0, 0)
  | _ => (29, 29)

mutual

/-- The number of levels that are read below the outermost one, not counting parentheses. -/
def levels : Expr → Nat
  | constant _ => 0
  | name _ => 0
  | all es => levelsOf 0 2 es
  | any es => levelsOf 0 2 es
  | signed _ e => e.levels + 1
  | compare e rest => max e.levels (levelsOfChain rest)
  | list es => levelsOf 29 30 es
  | tuple es => levelsOf 28 30 es
  | member e _ => e.levels
  | call f es ns => max f.levels (max (levelsOf 24 28 es) (levelsOf 27 27 ns))
  | other form es => levelsOf (levelsOfForm form).1 (levelsOfForm form).2 es

/-- The number of levels to read several parts, the first of which takes `first` levels and the
others take `next`. -/
def levelsOf (first next : Nat) : List Expr → Nat
  | [] => 0
  | e :: es => max (first + e.levels) (levelsOf next next es)

/-- The number of levels to read the operands of a chain behind the first. -/
def levelsOfChain : List (Expression.Comparison × Expr) → Nat
  | [] => 0
  | (_, e) :: rest => max (3 + e.levels) (levelsOfChain rest)

end

end Expr
end WorkflowKit
