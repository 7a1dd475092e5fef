/-
# Blanks and line ends

Three sets of characters with different jobs:

| set | members | job |
| --- | --- | --- |
| `isBlank` | 29 | what trimming drops and what separates the parts of a placeholder |
| `isSpace` | 25, the White_Space property | what may surround an integer written as text |
| `isLineEnd` | 10 | where property text is cut into lines |

The four characters U+001C … U+001F are blank without being White_Space.
-/

import WorkflowKit.Text

namespace WorkflowKit
namespace Text

/-- The characters with the White_Space property. -/
def isSpace (c : Char) : Bool :=
  let n := c.toNat
  (9 ≤ n && n ≤ 13) || n == 0x20 || n == 0x85 || n == 0xa0 || n == 0x1680 ||
  (0x2000 ≤ n && n ≤ 0x200a) || n == 0x2028 || n == 0x2029 || n == 0x202f || n == 0x205f ||
  n == 0x3000

/-- The characters that trimming drops: White_Space and the four information separators. -/
def isBlank (c : Char) : Bool :=
  isSpace c || (0x1c ≤ c.toNat && c.toNat ≤ 0x1f)

/-- The characters that end a line of property text; a carriage return and a line feed together
end one line. -/
def isLineEnd (c : Char) : Bool :=
  let n := c.toNat
  (10 ≤ n && n ≤ 13) || (0x1c ≤ n && n ≤ 0x1e) || n == 0x85 || n == 0x2028 || n == 0x2029

/-- Drops what satisfies `p` from the end. -/
def trimEnd (p : Char → Bool) (cs : List Char) : List Char :=
  (cs.reverse.dropWhile p).reverse

/-- Drops what satisfies `p` from both ends. -/
def trim (p : Char → Bool) (cs : List Char) : List Char :=
  trimEnd p (cs.dropWhile p)

/-- The text without surrounding blanks. -/
def strip (cs : List Char) : List Char :=
  trim isBlank cs

/-- Whether the text is empty or consists of blanks. -/
def isAllBlank (t : Text) : Bool :=
  t.points.all (CodePoint.isCharWith isBlank)

/-- The lines of a text, without their ends.  An end of line at the end of the text starts no
further line. -/
def lines : List Char → List (List Char)
  | [] => []
  | '\r' :: '\n' :: cs => [] :: lines cs
  | c :: cs =>
    if isLineEnd c then [] :: lines cs
    else match lines cs with
      | [] => [[c]]
      | l :: ls => (c :: l) :: ls

/-- A text read from a file: a carriage return, with or without a line feed after it, becomes a
line feed. -/
def universalNewlines : List Char → List Char
  | [] => []
  | '\r' :: '\n' :: cs => '\n' :: universalNewlines cs
  | c :: cs => (if c = '\r' then '\n' else c) :: universalNewlines cs

end Text
end WorkflowKit
