/-
# The shortest text of a floating-point number

A finite number is written with the fewest significant digits that read back as the number; among
the texts of that length, with the one nearest to it.  The reals that read back as
`m · 2 ^ q` form an interval around it, with its ends if `m` is even.  For `n = 1, 2, … 17` digits
only the two neighbours of the number on the grid of `n`-digit decimals have to be tested.

The layout: digits are written positionally when the leading one stands for `10 ^ k` with
`-4 ≤ k ≤ 15`, and always with a point (`1.0`, `0.0001`); otherwise with an exponent of a sign and
at least two digits (`1e+16`, `1.5e-07`).
-/

import WorkflowKit.Number.Binary64
import WorkflowKit.Number.Decimal

namespace WorkflowKit
namespace Number

/-- The exponent of the leading decimal digit of `num / den`, found from an estimate by at most
`fuel` corrections. -/
def leadingExponent (num den : Nat) : Nat → Int → Int
  | 0, k => k
  | fuel + 1, k =>
    if num * tenTo (-k) < den * tenTo k then leadingExponent num den fuel (k - 1)
    else if den * tenTo (k + 1) ≤ num * tenTo (-(k + 1)) then leadingExponent num den fuel (k + 1)
    else k

/-- The reals that round to `m · 2 ^ q`, in units of `2 ^ (q - 2)`: the ends of the interval, and
whether they belong to it. -/
structure Rounding where
  /-- The lower end. -/
  low : Nat
  /-- The number itself. -/
  mid : Nat
  /-- The upper end. -/
  high : Nat
  /-- Whether the ends round to the number. -/
  closed : Bool

/-- The interval of `m · 2 ^ q`.  Below a power of two the neighbour is nearer. -/
def roundingOf (m : Nat) (q : Int) : Rounding :=
  { low := 4 * m - (if m = leastFullMantissa ∧ -1074 < q then 1 else 2)
    mid := 4 * m
    high := 4 * m + 2
    closed := m % 2 = 0 }

/-- Whether the decimal `d · 10 ^ u` reads back as `m · 2 ^ q`. -/
def readsBack (m : Nat) (q : Int) (d : Nat) (u : Int) : Bool :=
  let r := roundingOf m q
  let x := d * tenTo u * twoTo (2 - q)
  let unit := twoTo (q - 2) * tenTo (-u)
  if r.closed then decide (r.low * unit ≤ x ∧ x ≤ r.high * unit)
  else decide (r.low * unit < x ∧ x < r.high * unit)

/-- The grid point `d` or `d + 1` of the grid `10 ^ u` that is to be written, where the number
`num / den` lies between the two, if one of them reads back. -/
def nearestReadingBack (m : Nat) (q : Int) (num den d : Nat) (u : Int) : Option Nat :=
  match readsBack m q d u, readsBack m q (d + 1) u with
  | false, false => none
  | true, false => some d
  | false, true => some (d + 1)
  | true, true =>
    let twice := 2 * (num * tenTo (-u))
    let middle := (2 * d + 1) * (den * tenTo u)
    if twice < middle then some d
    else if middle < twice then some (d + 1)
    else some (if d % 2 = 0 then d else d + 1)

/-- The decimal `d · 10 ^ u` with the fewest digits, from `n` digits on, that reads back.  `k` is
the exponent of the leading digit. -/
def shortestFrom (m : Nat) (q : Int) (num den : Nat) (k : Int) : Nat → Nat → Nat × Int
  | 0, n => (num * tenTo ((n : Int) - k) / (den * tenTo (k - n)), k - n)
  | fuel + 1, n =>
    let u := k - n
    let d := num * tenTo (-u) / (den * tenTo u)
    match nearestReadingBack m q num den d u with
    | some d => (d, u)
    | none => shortestFrom m q num den k fuel (n + 1)

/-- The shortest decimal `d · 10 ^ u` that reads back as `m · 2 ^ q`, for a positive `m`. -/
def shortestDecimal (m : Nat) (q : Int) : Nat × Int :=
  let num := m * twoTo q
  let den := twoTo (-q)
  let k := leadingExponent num den 8 ((m.log2 + q) * 30103 / 100000)
  shortestFrom m q num den k 17 0

/-- Digits without the zeros at their end, of which one digit remains. -/
def dropTrailingZeros (ds : List Char) : List Char :=
  match (ds.reverse.dropWhile (· = '0')).reverse with
  | [] => ['0']
  | ds => ds

/-- The least exponent of a leading digit that is written positionally. -/
def leastPositional : Int := -4

/-- The greatest exponent of a leading digit that is written positionally. -/
def greatestPositional : Int := 15

/-- An exponent with its sign and at least two digits. -/
def exponentText (k : Int) : List Char :=
  let ds := natText k.natAbs
  (if k < 0 then '-' else '+') :: (if ds.length < 2 then '0' :: ds else ds)

/-- The layout of digits whose leading one stands for `10 ^ k`. -/
def layoutDigits (ds : List Char) (k : Int) : List Char :=
  if leastPositional ≤ k ∧ k ≤ greatestPositional then
    if k < 0 then '0' :: '.' :: (List.replicate (k.natAbs - 1) '0' ++ ds)
    else
      let whole := ds.take (k.toNat + 1)
      let fraction := ds.drop (k.toNat + 1)
      whole ++ List.replicate (k.toNat + 1 - ds.length) '0' ++
        '.' :: (if fraction.isEmpty then ['0'] else fraction)
  else
    match ds with
    | [] => []
    | d :: rest => (if rest.isEmpty then [d] else d :: '.' :: rest) ++ 'e' :: exponentText k

/-- The text of a number. -/
def Binary64.text : Binary64 → List Char
  | .nan _ => "nan".toList
  | .infinite s => (if s then "-inf" else "inf").toList
  | .finite s m q =>
    let body :=
      if m = 0 then "0.0".toList
      else
        let (d, u) := shortestDecimal m q
        let ds := natText d
        layoutDigits (dropTrailingZeros ds) (ds.length - 1 + u)
    if s then '-' :: body else body

end Number
end WorkflowKit
