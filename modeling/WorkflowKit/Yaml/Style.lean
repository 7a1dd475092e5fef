/-
# Styles of texts

A text is written in the first of these styles that can hold it:

* plain, if it is a single line without indicators and blanks in the wrong places, and if it reads
  back as a text;
* between single quotes, if it has no special characters, no halves of pairs, and no blank before
  or after a line end;
* between double quotes.
-/

import WorkflowKit.Text
import WorkflowKit.Yaml.Tag

namespace WorkflowKit
namespace Yaml

/-- The style of a scalar. -/
inductive Style
  /-- Without quotes. -/
  | plain
  /-- Between single quotes. -/
  | single
  /-- Between double quotes. -/
  | double
  deriving DecidableEq, Repr

/-- The characters that end a line of a written text; a carriage return is a special character. -/
def isWrittenBreak (c : Char) : Bool :=
  c == '\n' || c == '\x85' || c == '\u2028' || c == '\u2029'

/-- The characters that are only written as escapes. -/
def isSpecial (c : Char) : Bool :=
  let n := c.toNat
  !(c == '\n' || (0x20 ≤ n && n ≤ 0x7e)) &&
    !((n == 0x85 || (0xa0 ≤ n && n ≤ 0xfffd) || (0x10000 ≤ n && n < 0x10ffff)) && n != 0xfeff)

/-- Whether `p` holds of two neighbours in a text. -/
def hasPair (p : Char → Char → Bool) : List Char → Bool
  | a :: b :: cs => p a b || hasPair p (b :: cs)
  | _ => false

/-- Whether a text has a blank just after a line end. -/
def hasBreakBlank (cs : List Char) : Bool := hasPair (fun a b => isWrittenBreak a && b == ' ') cs

/-- Whether a text has a blank just before a line end. -/
def hasBlankBreak (cs : List Char) : Bool := hasPair (fun a b => a == ' ' && isWrittenBreak b) cs

/-- The characters with which no plain scalar begins. -/
def leadingIndicators : List Char := "#,[]\x7b\x7d&*!|>\x27\x22%@\x60".toList

/-- Whether a text has characters that would end a plain scalar or mean something else. -/
def hasIndicator (cs : List Char) : Bool :=
  let wordEnds := endsToken (cs.tail.headD endMark)
  let first := cs.headD endMark
  "---".toList.isPrefixOf cs || "...".toList.isPrefixOf cs || leadingIndicators.contains first ||
    ((first == '?' || first == '-') && wordEnds) ||
    hasPair (fun a b => (a == ':' && endsToken b) || (endsToken a && b == '#')) cs ||
    cs.getLast? == some ':'

/-- Whether a text can stand without quotes. -/
def allowsPlain (cs : List Char) : Bool :=
  cs.head? != some ' ' && cs.getLast? != some ' ' && !cs.any isWrittenBreak &&
    !cs.any isSpecial && !hasIndicator cs

/-- Whether a text can stand between single quotes. -/
def allowsSingle (cs : List Char) : Bool :=
  !hasBreakBlank cs && !hasBlankBreak cs && !cs.any isSpecial

/-- Whether a text has several lines. -/
def isMultiline (cs : List Char) : Bool := cs.any isWrittenBreak

/-- The style of a text, which may stand as a key on one line. -/
def styleOf (asKey : Bool) (t : Text) : Style :=
  match t.chars? with
  | none => .double
  | some cs =>
    if plainTag t == .text && !cs.isEmpty && allowsPlain cs then .plain
    else if allowsSingle cs && !(asKey && isMultiline cs) then .single
    else .double

/-- The greatest length, with its tag, of a key that stands on one line. -/
def keyWidth : Nat := 128

/-- Whether a text can be a key on one line: it is short, not empty, and has one line. -/
def isSimpleKey (t : Text) : Bool :=
  let cs := t.chars
  cs.length + 5 < keyWidth && !cs.isEmpty && !isMultiline cs

end Yaml
end WorkflowKit
