/-
# Numerals

Integers in base 10, and in base 16, 8 or 2 behind `0x`, `0o` or `0b`; floating-point numbers with
a point or an exponent; and imaginary numbers with a final `j`.  Single underscores may stand
between digits.  An integer in base 10 does not begin with a zero, unless it is zero, and has no
more digits than may be read.

A letter, digit or underscore must not follow, unless it begins one of the words that can follow
a number.
-/

import WorkflowKit.Expression.Token
import WorkflowKit.Number.Decimal

namespace WorkflowKit
namespace Expression

open Number (Binary64)

/-- A character that a name may begin with, as far as can be told from it alone. -/
def opensName (c : Char) : Bool := c.isAlpha || c == '_' || 0x80 ≤ c.toNat

/-- A character that a name may go on with, as far as can be told from it alone. -/
def extendsName (c : Char) : Bool := opensName c || c.isDigit

/-- The digits at the start of a text, single underscores between them left out, and what follows.
An underscore must have a digit behind it. -/
def digitRun? (isDigit : Char → Bool) : List Char → Option (List Char × List Char)
  | [] => some ([], [])
  | [c] =>
    if isDigit c then some ([c], [])
    else if c = '_' then none
    else some ([], [c])
  | c :: d :: cs =>
    if isDigit c then (digitRun? isDigit (d :: cs)).map fun p => (c :: p.1, p.2)
    else if c = '_' then
      if isDigit d then (digitRun? isDigit cs).map fun p => (d :: p.1, p.2) else none
    else some ([], c :: d :: cs)

/-- The words that may follow a numeral without a blank. -/
def wordsAfterNumeral : List (List Char) :=
  [['a', 'n', 'd'], ['e', 'l', 's', 'e'], ['f', 'o', 'r'], ['i', 'f'], ['i', 'n'], ['i', 's'],
    ['n', 'o', 't'], ['o', 'r']]

/-- Whether a numeral may end before a text. -/
def numeralEnds : List Char → Bool
  | [] => true
  | c :: cs => !extendsName c || wordsAfterNumeral.any fun w => w.isPrefixOf (c :: cs)

/-- A numeral that ends before a text. -/
def numeralBefore? (n : Numeral) (cs : List Char) : Option (Numeral × List Char) :=
  if numeralEnds cs then some (n, cs) else none

/-- An integer behind the sign of its base. -/
def basedNumeral? (base : Nat) (isDigit : Char → Bool) (cs : List Char) :
    Option (Numeral × List Char) := do
  let (ds, rest) ← digitRun? isDigit cs
  if ds.isEmpty then none
  else numeralBefore? (.int (Number.digitsValue base ds)) rest

/-- The digits behind the point at the start of a text, if there is one. -/
def fractionDigits? : List Char → Option (Option (List Char) × List Char)
  | '.' :: c :: cs =>
    if c.isDigit then (digitRun? Char.isDigit (c :: cs)).map fun p => (some p.1, p.2)
    else some (some [], c :: cs)
  | ['.'] => some (some [], [])
  | cs => some (none, cs)

/-- The exponent at the start of a text, if there is one.  Without digits it is none; with a sign
it must have some. -/
def exponentOf? : List Char → Option (Option Int × List Char)
  | e :: c :: cs =>
    if e = 'e' ∨ e = 'E' then
      if c.isDigit then
        (digitRun? Char.isDigit (c :: cs)).map fun p => (some (Number.digitsValue 10 p.1), p.2)
      else if c = '+' ∨ c = '-' then do
        let (ds, rest) ← digitRun? Char.isDigit cs
        match cs with
        | d :: _ =>
          if d.isDigit then
            let n : Int := Number.digitsValue 10 ds
            some (some (if c = '-' then -n else n), rest)
          else none
        | [] => none
      else some (none, e :: c :: cs)
    else some (none, e :: c :: cs)
  | cs => some (none, cs)

/-- The integer of decimal digits. -/
def decimalInteger? (ds : List Char) : Option Numeral :=
  match ds with
  | '0' :: rest => if rest.all (· = '0') then some (.int 0) else none
  | ds => if Number.digitLimit < ds.length then none else some (.int (Number.digitsValue 10 ds))

/-- The number with these digits before and behind the point. -/
def decimalFloat (whole fraction : List Char) (exponent : Int) : Binary64 :=
  Binary64.ofDecimal false (Number.digitsValue 10 (whole ++ fraction))
    (exponent - fraction.length)

/-- A numeral in base 10, with or without a point, at the start of a text. -/
def decimalNumeral? (cs : List Char) : Option (Numeral × List Char) := do
  let (whole, rest) ← digitRun? Char.isDigit cs
  let (fraction, rest) ← fractionDigits? rest
  let (exponent, rest) ← exponentOf? rest
  match rest with
  | 'j' :: rest => numeralBefore? .imaginary rest
  | 'J' :: rest => numeralBefore? .imaginary rest
  | rest =>
    match fraction, exponent with
    | none, none => do numeralBefore? (← decimalInteger? whole) rest
    | _, _ =>
      numeralBefore? (.float (decimalFloat whole (fraction.getD []) (exponent.getD 0))) rest

/-- Whether a character is a digit of a base up to 16. -/
def isDigitOf (base : Nat) (c : Char) : Bool :=
  match Number.digitValue? c with
  | some d => d < base
  | none => false

/-- The numeral at the start of a text that begins with a digit, or with a point and a digit. -/
def numeral? : List Char → Option (Numeral × List Char)
  | '0' :: c :: cs =>
    if c = 'x' ∨ c = 'X' then basedNumeral? 16 (isDigitOf 16) cs
    else if c = 'o' ∨ c = 'O' then basedNumeral? 8 (isDigitOf 8) cs
    else if c = 'b' ∨ c = 'B' then basedNumeral? 2 (isDigitOf 2) cs
    else decimalNumeral? ('0' :: c :: cs)
  | cs => decimalNumeral? cs

end Expression
end WorkflowKit
