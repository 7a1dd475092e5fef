/-
# The tokens of expressions

What the grammar of expressions is about: names, words, numerals, texts between quotes, and marks.
Words and marks that no expression can hold are no tokens.
-/

import WorkflowKit.Expression.Tree

namespace WorkflowKit
namespace Expression

open Number (Binary64)

/-- A word with a meaning of its own. -/
inductive Word
  /-- The word `and`. -/
  | andWord
  /-- The word `or`. -/
  | orWord
  /-- The word `not`. -/
  | notWord
  /-- The word `in`. -/
  | inWord
  /-- The word `is`. -/
  | isWord
  /-- The word `if`. -/
  | ifWord
  /-- The word `else`. -/
  | elseWord
  /-- The word `for`. -/
  | forWord
  /-- The word `lambda`. -/
  | lambdaWord
  /-- The word `await`. -/
  | awaitWord
  /-- The word `async`. -/
  | asyncWord
  /-- The word `yield`. -/
  | yieldWord
  /-- The word `from`. -/
  | fromWord
  /-- The word `True`. -/
  | trueWord
  /-- The word `False`. -/
  | falseWord
  /-- The word `None`. -/
  | noneWord
  deriving DecidableEq, Repr

/-- The words by their spellings. -/
def words : List (List Char × Word) :=
  [(['a', 'n', 'd'], .andWord), (['o', 'r'], .orWord), (['n', 'o', 't'], .notWord),
    (['i', 'n'], .inWord), (['i', 's'], .isWord), (['i', 'f'], .ifWord),
    (['e', 'l', 's', 'e'], .elseWord), (['f', 'o', 'r'], .forWord),
    (['l', 'a', 'm', 'b', 'd', 'a'], .lambdaWord), (['a', 'w', 'a', 'i', 't'], .awaitWord),
    (['a', 's', 'y', 'n', 'c'], .asyncWord), (['y', 'i', 'e', 'l', 'd'], .yieldWord),
    (['f', 'r', 'o', 'm'], .fromWord), (['T', 'r', 'u', 'e'], .trueWord),
    (['F', 'a', 'l', 's', 'e'], .falseWord), (['N', 'o', 'n', 'e'], .noneWord)]

/-- The words that are reserved without a place in any expression. -/
def reservedWords : List (List Char) :=
  ["as", "assert", "break", "class", "continue", "def", "del", "elif", "except", "finally",
    "global", "import", "nonlocal", "pass", "raise", "return", "try", "while", "with"].map
    String.toList

/-- A punctuation mark or an operator. -/
inductive Mark
  /-- The mark `(`. -/
  | leftParen
  /-- The mark `)`. -/
  | rightParen
  /-- The mark `[`. -/
  | leftBracket
  /-- The mark `]`. -/
  | rightBracket
  /-- An opening brace. -/
  | leftBrace
  /-- A closing brace. -/
  | rightBrace
  /-- The mark `,`. -/
  | comma
  /-- The mark `:`. -/
  | colon
  /-- The mark `:=`. -/
  | colonEq
  /-- The mark `.`. -/
  | dot
  /-- The mark `...`. -/
  | ellipsis
  /-- The mark `=`. -/
  | assign
  /-- The mark `*`. -/
  | star
  /-- The mark `**`. -/
  | power
  /-- The mark `/`. -/
  | slash
  /-- The mark `//`. -/
  | doubleSlash
  /-- The mark `%`. -/
  | percent
  /-- The mark `@`. -/
  | atSign
  /-- The mark `+`. -/
  | plus
  /-- The mark `-`. -/
  | minus
  /-- The mark `~`. -/
  | tilde
  /-- The mark `|`. -/
  | bar
  /-- The mark `^`. -/
  | caret
  /-- The mark `&`. -/
  | ampersand
  /-- The mark `<<`. -/
  | shiftLeft
  /-- The mark `>>`. -/
  | shiftRight
  /-- The mark `==`. -/
  | eq
  /-- The mark `!=`. -/
  | ne
  /-- The mark `<`. -/
  | lt
  /-- The mark `<=`. -/
  | le
  /-- The mark `>`. -/
  | gt
  /-- The mark `>=`. -/
  | ge
  deriving DecidableEq, Repr

/-- The spellings of marks, longer ones first; a spelling without a mark has no place in any
expression. -/
def marks : List (List Char × Option Mark) :=
  [(['.', '.', '.'], some .ellipsis),
    (['*', '*', '='], none), (['/', '/', '='], none), (['<', '<', '='], none),
    (['>', '>', '='], none),
    (['!', '='], some .ne), (['=', '='], some .eq), (['<', '='], some .le),
    (['>', '='], some .ge), (['*', '*'], some .power), (['/', '/'], some .doubleSlash),
    (['<', '<'], some .shiftLeft), (['>', '>'], some .shiftRight), ([':', '='], some .colonEq),
    (['<', '>'], none), (['-', '>'], none), (['+', '='], none), (['-', '='], none),
    (['*', '='], none), (['/', '='], none), (['%', '='], none), (['&', '='], none),
    (['|', '='], none), (['^', '='], none), (['@', '='], none),
    (['('], some .leftParen), ([')'], some .rightParen), (['['], some .leftBracket),
    ([']'], some .rightBracket), (['\x7b'], some .leftBrace), (['\x7d'], some .rightBrace),
    ([','], some .comma), ([':'], some .colon), (['.'], some .dot), (['='], some .assign),
    (['*'], some .star), (['/'], some .slash), (['%'], some .percent), (['@'], some .atSign),
    (['+'], some .plus), (['-'], some .minus), (['~'], some .tilde), (['|'], some .bar),
    (['^'], some .caret), (['&'], some .ampersand), (['<'], some .lt), (['>'], some .gt)]

/-- A text between quotes, as it is written. -/
structure Quotation where
  /-- Whether it stands for bytes. -/
  bytes : Bool
  /-- Whether backslashes stand for themselves. -/
  raw : Bool
  /-- Whether braces enclose expressions. -/
  formatted : Bool
  /-- What stands between the quotes. -/
  body : List Char
  deriving DecidableEq, Repr

/-- What a numeral stands for. -/
inductive Numeral
  /-- An integer. -/
  | int (n : Nat)
  /-- A floating-point number. -/
  | float (x : Binary64)
  /-- An imaginary number. -/
  | imaginary
  deriving DecidableEq, Repr

/-- The constant that a numeral stands for. -/
def Numeral.constant : Numeral → Constant
  | int n => .int n
  | float x => .float x
  | imaginary => .imaginary

/-- A token. -/
inductive Token
  /-- A name. -/
  | name (id : String)
  /-- A word with a meaning of its own. -/
  | word (w : Word)
  /-- A numeral. -/
  | numeral (n : Numeral)
  /-- A text between quotes. -/
  | quotation (q : Quotation)
  /-- A mark. -/
  | mark (m : Mark)
  /-- The end of a line outside all brackets. -/
  | lineEnd
  deriving DecidableEq, Repr

end Expression
end WorkflowKit
