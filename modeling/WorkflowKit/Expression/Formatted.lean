/-
# Texts with expressions in them

In a formatted text an expression stands between braces; two braces of a kind stand for one, and the
braces around the name of a character belong to its escape.
Behind the expression may follow `=`, which also shows the text of the expression, a conversion
`!s`, `!r` or `!a`, and behind `:` a format, in which expressions may stand between braces again,
but not in their formats.

The text of an expression holds no backslash and no `#`, its brackets match, and it is not blank.
-/

import WorkflowKit.Expression.Token.Quotation
import WorkflowKit.Text.Blank

namespace WorkflowKit
namespace Expression

/-- A part of a formatted text. -/
inductive Piece
  /-- A text. -/
  | text (s : Text)
  /-- An expression that is still to be read. -/
  | expression (cs : List Char)
  /-- The end of a format; the texts before and behind it are not neighbours. -/
  | formatEnd
  deriving DecidableEq, Repr

/-- The closing counterpart of a bracket. -/
def closingBracket? (c : Char) : Option Char :=
  ([('(', ')'), ('[', ']'), ('\x7b', '\x7d')].find? fun e => e.1 == c).map Prod.snd

/-- Where a place in the text of an expression stands. -/
inductive Place
  /-- Outside of all texts between quotes. -/
  | outside
  /-- Inside a text with these quotes, and whether there are three of them. -/
  | inside (quote : Char) (three : Bool)
  deriving DecidableEq, Repr

/-- What follows a character of the text of an expression: how many of the next characters belong
to it, the place behind it, and the brackets to be closed. -/
abbrev Passage := Nat × Place × List Char

/-- Whether the text goes on with two quotes. -/
def twoQuotes (q : Char) (cs : List Char) : Bool := [q, q].isPrefixOf cs

/-- How a character before a text is passed; `none` if it cannot stand there. -/
def passage? (brackets : List Char) (c : Char) (cs : List Char) : Place → Option Passage
  | .inside q three =>
    if c ≠ q then some (0, .inside q three, brackets)
    else if three then
      if twoQuotes q cs then some (2, .outside, brackets)
      else some (0, .inside q three, brackets)
    else some (0, .outside, brackets)
  | .outside =>
    if c = '\x27' ∨ c = '\x22' then
      if twoQuotes c cs then some (2, .inside c true, brackets)
      else some (0, .inside c false, brackets)
    else if c = '#' then none
    else match closingBracket? c with
      | some d => some (0, .outside, d :: brackets)
      | none =>
        if c = ')' ∨ c = ']' ∨ c = '\x7d' then
          match brackets with
          | d :: outer => if c = d then some (0, .outside, outer) else none
          | [] => none
        else if brackets.isEmpty && (c == '!' || c == '=' || c == '<' || c == '>') &&
            cs.head? == some '=' then
          some (1, .outside, brackets)
        else some (0, .outside, brackets)

/-- Whether a character outside of all brackets ends an expression. -/
def endsExpression (c : Char) (cs : List Char) : Bool :=
  c == '\x7d' || c == ':' || ((c == '!' || c == '=') && cs.head? != some '=')

/-- The text of an expression, and what follows from the character on that ends it: `!`, `:`, `=`
or a brace outside of all brackets.  The first argument counts the characters that belong to the
one before. -/
def expressionText? :
    Nat → Place → List Char → List Char → Option (List Char × List Char)
  | _, _, _, [] => none
  | taken + 1, place, brackets, c :: cs =>
    if c = '\\' then none
    else (expressionText? taken place brackets cs).map fun p => (c :: p.1, p.2)
  | 0, place, brackets, c :: cs =>
    if c = '\\' then none
    else if place = .outside ∧ brackets = [] ∧ endsExpression c cs then some ([], c :: cs)
    else do
      let (taken, place, brackets) ← passage? brackets c cs place
      let (e, rest) ← expressionText? taken place brackets cs
      some (c :: e, rest)

/-- A blank inside an expression. -/
def isInnerBlank (c : Char) : Bool := c == ' ' || c == '\t' || c == '\n' || c == '\x0c'

/-- A blank behind the sign that shows the text of an expression. -/
def isAsciiBlank (c : Char) : Bool := c == ' ' || (9 ≤ c.toNat && c.toNat ≤ 13)

/-- What follows a conversion, if there is one. -/
def afterConversion? : List Char → Option (List Char)
  | '!' :: c :: d :: cs =>
    if (c = 's' ∨ c = 'r' ∨ c = 'a') ∧ (d = '\x7d' ∨ d = ':') then some (d :: cs) else none
  | '!' :: _ => none
  | cs => some cs

/-- The head of what stands between braces: the expression, the text that it shows, and what
follows from the format or the closing brace on. -/
def fieldHead? (cs : List Char) : Option (List Piece × List Char) := do
  let (e, rest) ← expressionText? 0 .outside [] cs
  if e.all isInnerBlank then none
  else
    let (shown, rest) := match rest with
      | '=' :: more =>
        let gap := more.takeWhile isAsciiBlank
        ([Piece.text (.ofChars (e ++ '=' :: gap))], more.drop gap.length)
      | rest => ([], rest)
    let rest ← afterConversion? rest
    some (shown ++ [.expression e], rest)

/-- The text between braces at the start of a text, with its braces. -/
def bracedText (cs : List Char) : List Char :=
  if cs.head? = some '\x7b' then cs.take ((cs.takeWhile (· ≠ '\x7d')).length + 1) else []

/-- The pieces of a formatted text, and what follows the last.  `level` counts the formats that the
text is part of, `before` holds the characters since the last expression, the last one first.  The
first argument bounds the number of steps. -/
def piecesFrom? (raw : Bool) :
    Nat → Nat → List Char → List Char → Option (List Piece × List Char)
  | 0, _, _, _ => none
  | fuel + 1, level, before, cs =>
    let textBefore := (unescaped? raw before.reverse).map Piece.text
    match cs with
    | [] => do some ([← textBefore], [])
    | '\\' :: c :: rest =>
      if raw || c == '\x7b' || c == '\x7d' then
        piecesFrom? raw fuel level ('\\' :: before) (c :: rest)
      else
        let named := if c == 'N' then bracedText rest else []
        piecesFrom? raw fuel level (named.reverse ++ c :: '\\' :: before) (rest.drop named.length)
    | c :: rest =>
      if c = '\x7b' ∨ c = '\x7d' then
        if level = 0 ∧ rest.head? = some c then
          piecesFrom? raw fuel level (c :: before) rest.tail
        else if c = '\x7d' then
          if level = 0 then none else do some ([← textBefore], c :: rest)
        else if 2 ≤ level then none
        else do
          let (head, rest) ← fieldHead? rest
          let (format, rest) ← match rest with
            | ':' :: more =>
              (piecesFrom? raw fuel (level + 1) [] more).map fun p => (p.1 ++ [.formatEnd], p.2)
            | rest => some ([], rest)
          match rest with
          | '\x7d' :: rest => do
            let (after, rest) ← piecesFrom? raw fuel level [] rest
            some ((← textBefore) :: head ++ format ++ after, rest)
          | _ => none
      else piecesFrom? raw fuel level (c :: before) rest

/-- The pieces of a text between quotes. -/
def Quotation.pieces? (q : Quotation) : Option (List Piece) :=
  if q.bytes then none
  else if q.formatted then
    match piecesFrom? q.raw (q.body.length + 1) 0 [] q.body with
    | some (ps, []) => some ps
    | _ => none
  else (fun s => [Piece.text s]) <$> unescaped? q.raw q.body

end Expression
end WorkflowKit
