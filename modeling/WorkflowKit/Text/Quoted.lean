/-
# Quoted text

How a text, or a sequence of bytes, is shown inside a message: between quotes, on one line, with
escapes for what is not printable.

* The quote is `'`, or `"` for a text that holds `'` and no `"`.
* A backslash and the quote in use are preceded by a backslash.
* Tab, line feed and carriage return are `\t`, `\n` and `\r`.
* Any other code point that is no printable character is `\xhh`, `\uhhhh` or `\Uhhhhhhhh`, the
  shortest form that has room for it.
* Bytes follow a `b`; all bytes outside printable ASCII are `\xhh`.
-/

import WorkflowKit.Text
import WorkflowKit.Text.Printable

namespace WorkflowKit
namespace Text

/-- A number in base 16 with lower-case digits, filled up to `width` digits. -/
def hexText (width n : Nat) : List Char :=
  let ds := Nat.toDigits 16 n
  List.replicate (width - ds.length) '0' ++ ds

/-- The quote around a text: `'` unless the text holds it and holds no `"`. -/
def quoteFor (cs : List Char) : Char :=
  if cs.contains '\x27' && !cs.contains '\x22' then '\x22' else '\x27'

/-- An escape by number in the shortest of its three forms. -/
def numericEscape (n : Nat) : List Char :=
  if n < 0x100 then '\\' :: 'x' :: hexText 2 n
  else if n < 0x10000 then '\\' :: 'u' :: hexText 4 n
  else '\\' :: 'U' :: hexText 8 n

/-- A character as it stands between the quotes `q`. -/
def quotedChar (q c : Char) : List Char :=
  if c = q ∨ c = '\\' then ['\\', c]
  else if c = '\t' then ['\\', 't']
  else if c = '\n' then ['\\', 'n']
  else if c = '\r' then ['\\', 'r']
  else if isPrintable c then [c]
  else numericEscape c.toNat

/-- A code point as it stands between the quotes `q`. -/
def quotedPoint (q : Char) : CodePoint → List Char
  | .char c => quotedChar q c
  | .half n => numericEscape (CodePoint.half n).number

/-- A text between quotes. -/
def quoted (t : Text) : List Char :=
  let q := quoteFor t.chars
  q :: (t.points.flatMap (quotedPoint q) ++ [q])

/-- Bytes between quotes: the characters with these numbers, escaped above ASCII. -/
def quotedBytes (bs : List UInt8) : List Char :=
  let cs := bs.map fun b => Char.ofNat b.toNat
  let q := quoteFor cs
  'b' :: q :: (cs.flatMap (fun c => if c.toNat < 0x80 then quotedChar q c
    else numericEscape c.toNat) ++ [q])

end Text
end WorkflowKit
