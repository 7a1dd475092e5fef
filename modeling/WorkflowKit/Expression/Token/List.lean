/-
# Reading tokens

A text is cut into tokens from left to right.  Blanks, tabs and form feeds separate tokens, and so
do comments, which begin with `#`; a backslash at the end of a line joins it with the next.  Inside
brackets a line end is a blank.  Outside it ends the line; lines without tokens count for nothing,
and a line with tokens must not be indented.  Brackets are nested at most 200 deep.
-/

import WorkflowKit.Expression.Token.Numeral
import WorkflowKit.Expression.Token.Quotation
import WorkflowKit.Text.Identifier

namespace WorkflowKit
namespace Expression

/-- The greatest depth of brackets. -/
def bracketLimit : Nat := 200

/-- A character between tokens. -/
def isGap (c : Char) : Bool := c == ' ' || c == '\t' || c == '\x0c'

/-- The text from the first line with a token on, if that line is not indented.  `comment` says
whether the text is part of a comment, `column` whether it is indented, and `fixed` whether a line
that is joined with it was. -/
def lineStart? (comment column fixed : Bool) : List Char → Option (List Char)
  | [] => some []
  | c :: cs =>
    if c = '\n' then lineStart? false false false cs
    else if comment then lineStart? true column fixed cs
    else if c = ' ' ∨ c = '\t' then lineStart? false true fixed cs
    else if c = '\x0c' then lineStart? false false fixed cs
    else if c = '#' then lineStart? true column fixed cs
    else if c = '\\' then
      match cs with
      | '\n' :: rest =>
        if rest.isEmpty then none else lineStart? false column (fixed || column) rest
      | _ => none
    else if fixed || column then none
    else some (c :: cs)

/-- A name or a word. -/
def nameToken? (w : List Char) : Option Token :=
  if !(w.all fun c => c.toNat < 0x80) && !Text.isIdentifier w then none
  else match words.find? fun e => e.1 == w with
    | some (_, w) => some (.word w)
    | none => if reservedWords.contains w then none
      else some (.name (String.ofList (Text.normalForm w)))

/-- The token at the start of a text that begins with neither a gap nor a comment, and what
follows. -/
def token? (cs : List Char) : Option (Token × List Char) :=
  let letters := cs.takeWhile extendsName
  let rest := cs.drop letters.length
  match cs with
  | [] => none
  | c :: more =>
    if opensName c then
      let isQuotation := (rest.head?.any fun q => q == '\x27' || q == '\x22') &&
        quotationLetters.any fun e => e.1 == letters.map Char.toLower
      if isQuotation then (quotation? letters rest).map fun p => (.quotation p.1, p.2)
      else (nameToken? letters).map fun t => (t, rest)
    else if c == '\x27' || c == '\x22' then
      (quotation? [] cs).map fun p => (.quotation p.1, p.2)
    else if c.isDigit || (c == '.' && more.head?.any Char.isDigit) then
      (numeral? cs).map fun p => (.numeral p.1, p.2)
    else match marks.find? fun e => e.1.isPrefixOf cs with
      | some (w, some m) => some (.mark m, cs.drop w.length)
      | _ => none

/-- The depth of brackets behind a token. -/
def depthAfter? (depth : Nat) : Token → Option Nat
  | .mark .leftParen | .mark .leftBracket | .mark .leftBrace =>
    if depth < bracketLimit then some (depth + 1) else none
  | .mark .rightParen | .mark .rightBracket | .mark .rightBrace =>
    if depth = 0 then none else some (depth - 1)
  | _ => some depth

/-- The tokens of a text inside `depth` brackets.  The first argument bounds the number of steps. -/
def tokensFrom? : Nat → Nat → List Char → Option (List Token)
  | 0, _, _ => none
  | _ + 1, depth, [] => if depth = 0 then some [] else none
  | fuel + 1, depth, c :: cs =>
    if isGap c then tokensFrom? fuel depth cs
    else if c = '#' then tokensFrom? fuel depth (cs.dropWhile (· ≠ '\n'))
    else if c = '\\' then
      match cs with
      | '\n' :: rest => if rest.isEmpty then none else tokensFrom? fuel depth rest
      | _ => none
    else if c = '\n' then
      if 0 < depth then tokensFrom? fuel depth cs
      else do
        let rest ← lineStart? false false false cs
        (.lineEnd :: ·) <$> tokensFrom? fuel depth rest
    else do
      let (t, rest) ← token? (c :: cs)
      let depth ← depthAfter? depth t
      (t :: ·) <$> tokensFrom? fuel depth rest

/-- The tokens of a text. -/
def tokens? (cs : List Char) : Option (List Token) := do
  let rest ← lineStart? false false false cs
  tokensFrom? (rest.length + 1) 0 rest

end Expression
end WorkflowKit
