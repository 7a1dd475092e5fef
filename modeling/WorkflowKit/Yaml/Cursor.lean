/-
# Places in a YAML text

A place knows its line and its column, from which the structure of a YAML text is read.  Five
characters end a line: line feed, carriage return, next line, line separator and paragraph
separator; a carriage return and a line feed together end one line.

U+0000 stands for the end of the text.  No text holds it: a text with other than printable
characters, tabs and line ends is refused as a whole.
-/

import WorkflowKit.Calendar
import WorkflowKit.Text

namespace WorkflowKit
namespace Yaml

/-- Why a YAML text cannot be read.  All but the first two arise from values, not from the
structure. -/
inductive Fault
  /-- The text is not YAML, or a value does not fit its tag. -/
  | malformed
  /-- Collections are nested too deep. -/
  | nested
  /-- An integer is too long. -/
  | digits (fault : Number.DigitFault)
  /-- A timestamp is no date. -/
  | calendar (fault : CalendarFault)
  /-- A text writes no integer in a base. -/
  | badInt (base : Nat) (text : Text)
  /-- A text writes no floating-point number. -/
  | badFloat (text : Text)
  /-- A text stands for no truth value. -/
  | badBool (text : Text)
  /-- A number has no digits. -/
  | emptyNumber
  /-- A text is no timestamp. -/
  | badTimestamp
  /-- A mapping with a default value is tagged as a timestamp. -/
  | timestampOfMapping
  /-- An escape names no character. -/
  | badCharacter
  /-- An escape names a number of more than 31 bits. -/
  | hugeCharacter
  /-- A number has too many parts. -/
  | hugeFactor
  deriving DecidableEq, Repr

/-- The end of the text. -/
def endMark : Char := '\x00'

/-- The characters that end a line. -/
def isBreak (c : Char) : Bool :=
  c == '\n' || c == '\r' || c == '\x85' || c == '\u2028' || c == '\u2029'

/-- The end of a line or of the text. -/
def endsLine (c : Char) : Bool := isBreak c || c == endMark

/-- A blank, or the end of a line or of the text. -/
def endsWord (c : Char) : Bool := c == ' ' || endsLine c

/-- A blank, a tab, or the end of a line or of the text. -/
def endsToken (c : Char) : Bool := c == '\t' || endsWord c

/-- The characters that a YAML text may hold. -/
def isAllowed (c : Char) : Bool :=
  let n := c.toNat
  n == 9 || n == 10 || n == 13 || (0x20 ≤ n && n ≤ 0x7e) || n == 0x85 ||
    (0xa0 ≤ n && n ≤ 0xfffd) || 0x10000 ≤ n

/-- A letter, a digit, a hyphen or an underscore: what names consist of. -/
def isNameChar (c : Char) : Bool := c.isAlphanum || c == '-' || c == '_'

/-- A hexadecimal digit. -/
def isHexDigit (c : Char) : Bool :=
  match Number.digitValue? c with
  | some v => v < 16
  | none => false

/-- A place in a text. -/
structure Cursor where
  /-- The characters from the place on. -/
  rest : List Char
  /-- The number of these characters. -/
  left : Nat
  /-- The number of characters before the place. -/
  index : Nat
  /-- The number of lines before the line of the place. -/
  line : Nat
  /-- The number of characters before the place on its line. -/
  column : Nat
  /-- The number of characters from the place on is kept up. -/
  left_eq : left = rest.length
  deriving Repr

namespace Cursor

/-- The start of a text. -/
def start (cs : List Char) : Cursor := ⟨cs, cs.length, 0, 0, 0, rfl⟩

/-- The character at the place. -/
def peek (c : Cursor) : Char := c.rest.headD endMark

/-- The character `n` places further on. -/
def peekAt (c : Cursor) (n : Nat) : Char := (c.rest.drop n).headD endMark

/-- The next place.  A byte order mark takes no column. -/
def next (c : Cursor) : Cursor :=
  match h : c.rest with
  | [] => c
  | ch :: rest =>
    have left_eq : c.left - 1 = rest.length := by simp [c.left_eq, h]
    if isBreak ch && !(ch == '\r' && rest.headD endMark == '\n') then
      ⟨rest, c.left - 1, c.index + 1, c.line + 1, 0, left_eq⟩
    else
      ⟨rest, c.left - 1, c.index + 1, c.line, if ch == '\ufeff' then c.column else c.column + 1,
        left_eq⟩

/-- The place `n` characters further on. -/
def skip : Nat → Cursor → Cursor
  | 0, c => c
  | n + 1, c => skip n c.next

/-- The characters that satisfy `p`, and the place after them. -/
def takeWhile (p : Char → Bool) (c : Cursor) : List Char × Cursor :=
  let taken := c.rest.takeWhile p
  (taken, c.skip taken.length)

/-- The place after the characters that satisfy `p`. -/
def dropWhile (p : Char → Bool) (c : Cursor) : Cursor := (c.takeWhile p).2

/-- The place after the blanks. -/
def skipBlanks (c : Cursor) : Cursor := c.dropWhile (· == ' ')

/-- The place after a comment, if one begins here. -/
def skipComment (c : Cursor) : Cursor :=
  if c.peek == '#' then c.dropWhile fun ch => !isBreak ch else c

/-- The end of a line as it counts in a value, and the place after it: the two separators stand
for themselves, every other end is a line feed. -/
def lineBreak (c : Cursor) : List Char × Cursor :=
  match c.rest with
  | '\r' :: '\n' :: _ => (['\n'], c.skip 2)
  | ch :: _ =>
    if ch == '\u2028' || ch == '\u2029' then ([ch], c.next)
    else if isBreak ch then (['\n'], c.next)
    else ([], c)
  | [] => ([], c)

/-- Whether `---` or `...` stands here as a word. -/
def atSeparator (c : Cursor) : Bool :=
  (c.rest.take 3 == ['-', '-', '-'] || c.rest.take 3 == ['.', '.', '.']) && endsToken (c.peekAt 3)

/-- The place after blanks and a comment, which must be the end of the line, and after that. -/
def restOfLine (c : Cursor) : Except Fault Cursor :=
  let c := c.skipBlanks.skipComment
  if endsLine c.peek then .ok c.lineBreak.2 else .error .malformed

end Cursor
end Yaml
end WorkflowKit
