/-
# The normal form of an expression

Operators may be written as words or as signs: `eq` or `==`, `&&` or `and`.  The normal form has one
spelling of each, and no blanks around the expression.

A literal is never changed.  It begins with a quote and ends with the next one of its kind that no
backslash precedes; a line feed behind a backslash makes it none.  A quote that begins no literal
is an ordinary character.  What stands between two literals is rewritten on its own, in two steps:
first whole words, then signs.  `!` before `=` stays, so `!` and `eq` together make `!==`.

An expression is a string.  A `Text` may hold lone halves of pairs as well; such a text is no
expression.
-/

import WorkflowKit.Text.Blank
import WorkflowKit.Text.Word

namespace WorkflowKit
namespace Expression

/-- A part of an expression text. -/
inductive Segment
  /-- What stands between two literals. -/
  | plain (cs : List Char)
  /-- A literal with its quotes. -/
  | literal (cs : List Char)
  deriving DecidableEq, Repr

/-- How many characters follow the opening quote `q` up to and with the closing one. -/
def closing? (q : Char) : List Char → Option Nat
  | [] => none
  | [c] => if c = q then some 1 else none
  | c :: d :: cs =>
    if c = q then some 1
    else if c = '\\' then
      if d = '\n' then none else (closing? q cs).map (· + 2)
    else (closing? q (d :: cs)).map (· + 1)

/-- A character that opens a literal. -/
def isQuote (c : Char) : Bool := c == '\x27' || c == '\x22'

/-- How many characters a literal with this first character has behind it. -/
def literal? (c : Char) (cs : List Char) : Option Nat :=
  if isQuote c then closing? c cs else none

/-- The segments of a text: plain ones and literals by turns, beginning and ending with a plain
one.  `before` holds the characters since the last literal, the last one first. -/
def segments (before : List Char) : List Char → List Segment
  | [] => [.plain before.reverse]
  | c :: cs =>
    match literal? c cs with
    | some n =>
      .plain before.reverse :: .literal (c :: cs.take n) :: segments [] (cs.drop n)
    | none => segments (c :: before) cs
termination_by cs => cs.length
decreasing_by
  · simp only [List.length_drop, List.length_cons]; omega
  · simp

/-- The sign or word that a word stands for. -/
def wordSpellings : List (List Char × List Char) :=
  [(['e', 'q'], ['=', '=']), (['n', 'e'], ['!', '=']), (['l', 'e'], ['<', '=']),
    (['g', 'e'], ['>', '=']), (['l', 't'], ['<']), (['g', 't'], ['>']),
    (['t', 'r', 'u', 'e'], ['T', 'r', 'u', 'e']),
    (['f', 'a', 'l', 's', 'e'], ['F', 'a', 'l', 's', 'e']),
    (['n', 'u', 'l', 'l'], ['N', 'o', 'n', 'e'])]

/-- The spelling of a word. -/
def respell (w : List Char) : List Char :=
  ((wordSpellings.find? fun e => e.1 == w).map Prod.snd).getD w

/-- Respells the words of a text, where a word is as many word characters as stand together.
`run` holds those just passed, the last one first. -/
def respellWords (run : List Char) : List Char → List Char
  | [] => respell run.reverse
  | c :: cs =>
    if Text.isWord c then respellWords (c :: run) cs
    else respell run.reverse ++ c :: respellWords [] cs

/-- Writes the signs of the connectives as words. -/
def respellSigns : List Char → List Char
  | [] => []
  | '&' :: '&' :: cs => [' ', 'a', 'n', 'd', ' '] ++ respellSigns cs
  | '|' :: '|' :: cs => [' ', 'o', 'r', ' '] ++ respellSigns cs
  | ['!'] => [' ', 'n', 'o', 't', ' ']
  | '!' :: '=' :: cs => '!' :: '=' :: respellSigns cs
  | '!' :: c :: cs => [' ', 'n', 'o', 't', ' '] ++ respellSigns (c :: cs)
  | c :: cs => c :: respellSigns cs

/-- The normal form of a segment. -/
def Segment.normal : Segment → List Char
  | plain cs => respellSigns (respellWords [] cs)
  | literal cs => cs

/-- The normal form of an expression. -/
def normalChars (cs : List Char) : List Char :=
  Text.strip ((segments [] cs).flatMap Segment.normal)

/-- The normal form of an expression. -/
def normal (s : String) : String :=
  String.ofList (normalChars s.toList)

end Expression
end WorkflowKit
