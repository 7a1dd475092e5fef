/-
# Texts between quotes

A text stands between two quotes of one kind, on one line unless its line ends are preceded by a
backslash; or between three quotes and three quotes, over any number of lines.  A backslash takes
the meaning of a quote from the next character.  Letters before the quotes change what the text
means: `r`, `u`, `b` and `f`, of which `r` can stand beside one of the latter two.

Escapes are a backslash and: a line end (nothing at all), a letter for a control character, up to
three octal digits, `x`, `u` or `U` with 2, 4 or 8 hexadecimal digits, or `N` with the name of a
character between braces.  A backslash before anything else stands for itself.
-/

import WorkflowKit.Expression.Token
import WorkflowKit.Number.Decimal
import WorkflowKit.Text.Name

namespace WorkflowKit
namespace Expression

/-- The characters up to the closing quote, and what follows it. -/
def untilQuote? (q : Char) : List Char → Option (List Char × List Char)
  | [] => none
  | [c] => if c = q then some ([], []) else none
  | c :: d :: cs =>
    if c = q then some ([], d :: cs)
    else if c = '\n' then none
    else if c = '\\' then (untilQuote? q cs).map fun p => (c :: d :: p.1, p.2)
    else (untilQuote? q (d :: cs)).map fun p => (c :: p.1, p.2)

/-- The characters up to three closing quotes, and what follows them. -/
def untilThreeQuotes? (q : Char) : List Char → Option (List Char × List Char)
  | c :: d :: cs =>
    if c = '\\' then (untilThreeQuotes? q cs).map fun p => (c :: d :: p.1, p.2)
    else if c = q ∧ d = q ∧ cs.head? = some q then some ([], cs.tail)
    else (untilThreeQuotes? q (d :: cs)).map fun p => (c :: p.1, p.2)
  | _ => none

/-- What stands behind a quote up to its counterpart, and what follows. -/
def afterQuote? (q : Char) : List Char → Option (List Char × List Char)
  | c :: d :: cs =>
    if c = q ∧ d = q then untilThreeQuotes? q cs
    else untilQuote? q (c :: d :: cs)
  | cs => untilQuote? q cs

/-- The letters that may stand before a quote, in lower case, with what they mean: bytes, raw,
formatted. -/
def quotationLetters : List (List Char × Bool × Bool × Bool) :=
  [([], false, false, false), (['r'], false, true, false), (['u'], false, false, false),
    (['b'], true, false, false), (['b', 'r'], true, true, false), (['r', 'b'], true, true, false),
    (['f'], false, false, true), (['f', 'r'], false, true, true), (['r', 'f'], false, true, true)]

/-- A text between quotes behind some letters, and what follows. -/
def quotation? (letters : List Char) : List Char → Option (Quotation × List Char)
  | [] => none
  | q :: cs => do
    let (_, bytes, raw, formatted) ←
      quotationLetters.find? fun e => e.1 == letters.map Char.toLower
    let (body, rest) ← afterQuote? q cs
    some (⟨bytes, raw, formatted, body⟩, rest)

/-- The character that a letter stands for behind a backslash. -/
def escapedLetter? (c : Char) : Option Char :=
  ([('\\', '\\'), ('\x27', '\x27'), ('\x22', '\x22'), ('a', '\x07'), ('b', '\x08'), ('f', '\x0c'),
    ('n', '\n'), ('r', '\r'), ('t', '\t'), ('v', '\x0b')].find? fun e => e.1 == c).map Prod.snd

/-- The code point with the number that the next `width` hexadecimal digits write. -/
def hexEscape? (width : Nat) (cs : List Char) : Option (List CodePoint × Nat) :=
  let ds := cs.take width
  if ds.length = width ∧ ds.all fun c => (Number.digitValue? c).any (· < 16) then
    let n := Number.digitsValue 16 ds
    if 0x110000 ≤ n then none else some ([.ofNumber n], width + 1)
  else none

/-- The character with the name that stands between braces. -/
def nameEscape? : List Char → Option (List CodePoint × Nat)
  | '\x7b' :: cs =>
    let name := cs.takeWhile (· ≠ '\x7d')
    if name.length < cs.length then
      (Text.Name.char? name).map fun c => ([.char c], name.length + 3)
    else none
  | _ => none

/-- A digit in base 8. -/
def isOctalDigit (c : Char) : Bool := '0' ≤ c && c ≤ '7'

/-- What a backslash before a text stands for, and how many characters of the text belong to it. -/
def escape? : List Char → Option (List CodePoint × Nat)
  | [] => some ([.char '\\'], 0)
  | c :: cs =>
    match escapedLetter? c with
    | some d => some ([.char d], 1)
    | none =>
      if c = '\n' then some ([], 1)
      else if c = 'x' then hexEscape? 2 cs
      else if c = 'u' then hexEscape? 4 cs
      else if c = 'U' then hexEscape? 8 cs
      else if c = 'N' then nameEscape? cs
      else if isOctalDigit c then
        let ds := ((c :: cs).take 3).takeWhile isOctalDigit
        some ([.ofNumber (Number.digitsValue 8 ds)], ds.length)
      else some ([.char '\\', .char c], 1)

/-- A text with its escapes replaced.  The first argument counts the characters that belong to the
escape before. -/
def unescapedFrom : Nat → List Char → Option (List CodePoint)
  | _, [] => some []
  | taken + 1, _ :: cs => unescapedFrom taken cs
  | 0, c :: cs =>
    if c = '\\' then do
      let (ps, n) ← escape? cs
      (ps ++ ·) <$> unescapedFrom n cs
    else (.char c :: ·) <$> unescapedFrom 0 cs

/-- What a text between quotes stands for. -/
def unescaped? (raw : Bool) (cs : List Char) : Option Text :=
  if raw then some (.ofChars cs) else Text.mk <$> unescapedFrom 0 cs

/-- Whether every `\x` has two hexadecimal digits behind it.  The first argument says whether a
backslash stands before the text. -/
def bytesEscapesHold : Bool → List Char → Bool
  | _, [] => true
  | true, c :: cs => (c != 'x' || (hexEscape? 2 cs).isSome) && bytesEscapesHold false cs
  | false, c :: cs => bytesEscapesHold (c == '\\') cs

/-- Whether a text between quotes can stand for bytes. -/
def Quotation.holdsBytes (q : Quotation) : Bool :=
  q.body.all (fun c => c.toNat < 0x80) && (q.raw || bytesEscapesHold false q.body)

end Expression
end WorkflowKit
