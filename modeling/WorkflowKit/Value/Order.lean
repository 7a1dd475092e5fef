/-
# Equality and order of values

* Booleans count as the integers 0 and 1; integers and floating-point numbers are compared
  exactly.
* Texts are ordered by code points, lists by their first items that differ.
* A NaN equals nothing, but a list or a mapping finds the very NaN it holds: see `found`.
* No other two values have an order.
-/

import WorkflowKit.Value

namespace WorkflowKit

open Number (Binary64)

/-- A number of either kind. -/
inductive Numeric
  /-- An integer. -/
  | int (n : Int)
  /-- A floating-point number. -/
  | float (x : Binary64)

/-- The order of two numbers; a NaN has none. -/
def Numeric.compare? : Numeric → Numeric → Option Ordering
  | .int a, .int b => some (compare a b)
  | .int a, .float y => (y.compareInt? a).map Ordering.swap
  | .float x, .int b => x.compareInt? b
  | .float x, .float y => x.compare? y

/-- Whether two occurrences of a NaN are one and the same. -/
def Number.Binary64.isSameNan : Binary64 → Binary64 → Bool
  | .nan p, .nan q => p != 0 && p == q
  | _, _ => false

namespace Value

/-- The number that a value counts as. -/
def numeric? : Value → Option Numeric
  | bool b => some (.int (if b then 1 else 0))
  | int n => some (.int n)
  | float x => some (.float x)
  | _ => none

/-- Whether two values are one and the same NaN. -/
def isSameNan : Value → Value → Bool
  | float x, float y => x.isSameNan y
  | _, _ => false

mutual

/-- Whether two values are equal. -/
def equal : Value → Value → Bool
  | null, null => true
  | text s, text t => s == t
  | list xs, list ys => itemsFound xs ys
  | map es, map fs => es.length == fs.length && entriesFound es fs
  | x, y =>
    match x.numeric?, y.numeric? with
    | some a, some b => a.compare? b == some .eq
    | _, _ => false

/-- Whether two lists hold equal items in the same places. -/
def itemsFound : List Value → List Value → Bool
  | [], [] => true
  | x :: xs, y :: ys => (x.isSameNan y || x.equal y) && itemsFound xs ys
  | _, _ => false

/-- Whether each entry stands in the other mapping, under the same key and with an equal value. -/
def entriesFound : List (Text × Value) → List (Text × Value) → Bool
  | [], _ => true
  | (k, x) :: es, fs =>
    (match lookup? k fs with
      | some y => x.isSameNan y || x.equal y
      | none => false) && entriesFound es fs

end

/-- Whether a list that holds `y` finds `x` there. -/
def found (x y : Value) : Bool :=
  x.isSameNan y || x.equal y

/-- The four comparisons of order. -/
inductive OrderTest
  /-- Less. -/
  | lt
  /-- Less or equal. -/
  | le
  /-- Greater. -/
  | gt
  /-- Greater or equal. -/
  | ge
  deriving DecidableEq, Repr

/-- Whether an ordering passes a test. -/
def OrderTest.passes : OrderTest → Ordering → Bool
  | .lt, o => o == .lt
  | .le, o => o != .gt
  | .gt, o => o == .gt
  | .ge, o => o != .lt

/-- The order of two texts by code points. -/
def compareText (s t : Text) : Ordering :=
  comparePoints s.points t.points
where
  /-- The order of two lists of code points. -/
  comparePoints : List CodePoint → List CodePoint → Ordering
    | [], [] => .eq
    | [], _ :: _ => .lt
    | _ :: _, [] => .gt
    | p :: ps, q :: qs => (compare p.number q.number).then (comparePoints ps qs)

mutual

/-- The outcome of a comparison of order, if the two values have an order. -/
def test? (test : OrderTest) : Value → Value → Option Bool
  | text s, text t => some (test.passes (compareText s t))
  | list xs, list ys => itemsTest? test xs ys
  | x, y =>
    match x.numeric?, y.numeric? with
    | some a, some b =>
      some (match a.compare? b with
        | some o => test.passes o
        | none => false)
    | _, _ => none

/-- The comparison of two lists: by the first items that differ, else by their lengths. -/
def itemsTest? (test : OrderTest) : List Value → List Value → Option Bool
  | [], ys => some (test.passes (if ys.isEmpty then .eq else .lt))
  | _ :: _, [] => some (test.passes .gt)
  | x :: xs, y :: ys => if found x y then itemsTest? test xs ys else test? test x y

end

/-- Whether the code points of `part` stand together in a text. -/
def holdsText (part : List CodePoint) : List CodePoint → Bool
  | [] => part.isEmpty
  | p :: ps => part.isPrefixOf (p :: ps) || holdsText part ps

/-- Whether a value is in a container: an item of a list, a part of a text, a key of a mapping.
Nothing else is a container; only a text is part of a text; a list or a mapping is no key. -/
def member? (x container : Value) : Option Bool :=
  match container, x with
  | list ys, x => some (ys.any fun y => found x y)
  | text t, text s => some (holdsText s.points t.points)
  | map es, text s => some (lookup? s es).isSome
  | map _, list _ => none
  | map _, map _ => none
  | map _, _ => some false
  | _, _ => none

/-- Whether a value counts as true: a number other than zero, anything else that is not empty. -/
def isTruthy : Value → Bool
  | null => false
  | bool b => b
  | int n => n != 0
  | float x => !x.isZero
  | text s => !s.isEmpty
  | list items => !items.isEmpty
  | map entries => !entries.isEmpty

end Value
end WorkflowKit
