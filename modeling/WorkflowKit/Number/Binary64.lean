/-
# Binary floating-point numbers

The numbers of the 64-bit binary format: a NaN, the infinities, and the finite numbers
`± mantissa · 2 ^ exponent`, where

* `mantissa < 2 ^ 53` and `-1074 ≤ exponent ≤ 971`;
* `2 ^ 52 ≤ mantissa`, unless the exponent is the least one (zero has mantissa 0 and exponent 0).

Every operation computes the exact result and rounds it to the nearest number of the format, a tie
to the even mantissa.  All arithmetic is on `Nat` and `Int`.

A NaN is equal to nothing.  It carries a payload, by which two occurrences of one and the same NaN
can be told from two NaNs: payload 0 stands for a NaN that occurs nowhere else.
-/

namespace WorkflowKit
namespace Number

/-- A number of the 64-bit binary format. -/
inductive Binary64
  /-- Not a number. -/
  | nan (payload : Nat)
  /-- An infinity. -/
  | infinite (negative : Bool)
  /-- The number `± mantissa · 2 ^ exponent`. -/
  | finite (negative : Bool) (mantissa : Nat) (exponent : Int)
  deriving DecidableEq, Repr

/-- The quotient rounded to the nearest integer, a tie to the even one. -/
def divideToNearest (a b : Nat) : Nat :=
  let q := a / b
  let r := a % b
  if 2 * r < b then q
  else if b < 2 * r then q + 1
  else if q % 2 = 0 then q else q + 1

/-- `2 ^ e`, or 1 for a negative exponent: the part of a power of two that multiplies. -/
def twoTo (e : Int) : Nat := Nat.pow 2 e.toNat

/-- `10 ^ e`, or 1 for a negative exponent. -/
def tenTo (e : Int) : Nat := Nat.pow 10 e.toNat

/-- The least mantissa of the numbers above the smallest ones, `2 ^ 52`. -/
def leastFullMantissa : Nat := 0x10000000000000

namespace Binary64

/-- Zero with a sign. -/
def zero (negative : Bool) : Binary64 := .finite negative 0 0

/-- The number nearest to `± num / den`, for a positive `den`. -/
def ofRatio (negative : Bool) (num den : Nat) : Binary64 :=
  if num = 0 then zero negative
  else
    let e : Int := (num.log2 : Int) - den.log2
    let below := decide (num * twoTo (-e) < den * twoTo e)
    let q := max (if below then e - 53 else e - 52) (-1074)
    let m := divideToNearest (num * twoTo (-q)) (den * twoTo q)
    let (m, q) := if m = 2 * leastFullMantissa then (leastFullMantissa, q + 1) else (m, q)
    if m = 0 then zero negative
    else if 971 < q then .infinite negative
    else .finite negative m q

/-- The number nearest to `± digits · 10 ^ exponent`.  Numbers far outside the range are settled
without computing the power. -/
def ofDecimal (negative : Bool) (digits : Nat) (exponent : Int) : Binary64 :=
  if digits = 0 then zero negative
  else
    let size : Int := (Nat.toDigits 10 digits).length + exponent
    if 310 < size then .infinite negative
    else if size < -330 then zero negative
    else ofRatio negative (digits * tenTo exponent) (tenTo (-exponent))

/-- The number nearest to `± mantissa · 2 ^ exponent`. -/
def ofDyadic (negative : Bool) (mantissa : Nat) (exponent : Int) : Binary64 :=
  ofRatio negative (mantissa * twoTo exponent) (twoTo (-exponent))

/-- The number nearest to an integer, unless that is an infinity. -/
def ofInt? (n : Int) : Option Binary64 :=
  match ofRatio (decide (n < 0)) n.natAbs 1 with
  | .infinite _ => none
  | x => some x

/-- The same number with the other sign; the opposite of a NaN is a new NaN. -/
def neg : Binary64 → Binary64
  | .nan _ => .nan 0
  | .infinite s => .infinite (!s)
  | .finite s m q => .finite (!s) m q

/-- Whether the number is a zero of either sign. -/
def isZero : Binary64 → Bool
  | .finite _ m _ => m == 0
  | _ => false

/-- Whether the number is finite. -/
def isFinite : Binary64 → Bool
  | .finite .. => true
  | _ => false

/-- A mantissa with its sign. -/
def signed (negative : Bool) (m : Nat) : Int := if negative then -(m : Int) else m

/-- The sum. -/
def add : Binary64 → Binary64 → Binary64
  | .nan _, _ | _, .nan _ => .nan 0
  | .infinite s, .infinite t => if s = t then .infinite s else .nan 0
  | .infinite s, _ | _, .infinite s => .infinite s
  | .finite s m p, .finite t n q =>
    let e := min p q
    let sum := signed s m * twoTo (p - e) + signed t n * twoTo (q - e)
    if sum = 0 then zero (s && t) else ofDyadic (decide (sum < 0)) sum.natAbs e

/-- The product. -/
def mul : Binary64 → Binary64 → Binary64
  | .nan _, _ | _, .nan _ => .nan 0
  | .infinite s, .infinite t => .infinite (s != t)
  | .infinite s, .finite t n _ | .finite t n _, .infinite s =>
    if n = 0 then .nan 0 else .infinite (s != t)
  | .finite s m p, .finite t n q => ofDyadic (s != t) (m * n) (p + q)

/-- The order of two numbers; a NaN has none. -/
def compare? : Binary64 → Binary64 → Option Ordering
  | .nan _, _ | _, .nan _ => none
  | .infinite s, .infinite t => some (if s = t then .eq else if s then .lt else .gt)
  | .infinite s, .finite .. => some (if s then .lt else .gt)
  | .finite .., .infinite s => some (if s then .gt else .lt)
  | .finite s m p, .finite t n q =>
    let e := min p q
    some (compare (signed s m * twoTo (p - e)) (signed t n * twoTo (q - e)))

/-- The order of a number and an integer, compared exactly. -/
def compareInt? (x : Binary64) (n : Int) : Option Ordering :=
  match x with
  | .nan _ => none
  | .infinite s => some (if s then .lt else .gt)
  | .finite s m q => some (compare (signed s m * twoTo q) (n * twoTo (-q)))

/-- The integer that the number is, if it is one. -/
def toInt? : Binary64 → Option Int
  | .finite s m q =>
    if 0 ≤ q then some (signed s m * twoTo q)
    else if m % twoTo (-q) = 0 then some (signed s (m / twoTo (-q)))
    else none
  | _ => none

end Binary64
end Number
end WorkflowKit
