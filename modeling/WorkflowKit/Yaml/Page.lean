/-
# The page that YAML is written on

Writing goes on at a column.  Lines are broken at blanks: a line that has passed 80 columns ends
at the next single blank of a text, and the text goes on at the indentation.
-/

import WorkflowKit.Text.Quoted
import WorkflowKit.Yaml.Style

namespace WorkflowKit
namespace Yaml

/-- What is written so far. -/
structure Page where
  /-- The characters, the last one first. -/
  written : List Char
  /-- The column at which writing goes on. -/
  column : Nat
  /-- Whether the last character separates, so that no blank is needed. -/
  blank : Bool
  /-- Whether the line holds nothing but indentation and indicators of blocks. -/
  fresh : Bool

namespace Page

/-- The empty page. -/
def empty : Page := ⟨[], 0, true, true⟩

/-- The text of a page. -/
def text (p : Page) : String := String.ofList p.written.reverse

/-- Writes characters that end no line. -/
def put (cs : List Char) (p : Page) : Page :=
  { p with written := cs.reverse ++ p.written, column := p.column + cs.length }

/-- Writes an indicator, after a blank if one is needed. -/
def indicator (cs : List Char) (needsBlank blank fresh : Bool) (p : Page) : Page :=
  let p := p.put (if p.blank || !needsBlank then cs else ' ' :: cs)
  { p with blank := blank, fresh := p.fresh && fresh }

/-- Ends the line with a character. -/
def endLine (c : Char) (p : Page) : Page := ⟨c :: p.written, 0, true, true⟩

/-- Moves to the indentation, on a new line unless the line is fresh and has not passed it. -/
def indent (n : Nat) (p : Page) : Page :=
  let p := if !p.fresh || n < p.column || (p.column == n && !p.blank) then p.endLine '\n' else p
  if p.column < n then { p.put (List.replicate (n - p.column) ' ') with blank := true } else p

/-- Notes that what comes next stands inside a text. -/
def insideText (p : Page) : Page := { p with blank := false, fresh := false }

/-- The column after which a line is broken. -/
def width : Nat := 80

/-- How a text is laid out. -/
structure Layout where
  /-- The indentation of its further lines. -/
  indent : Nat
  /-- Whether it may be broken into lines. -/
  split : Bool

/-- A part of a text: blanks, line ends, or other characters. -/
inductive Run
  /-- Blanks. -/
  | blanks (n : Nat)
  /-- Line ends. -/
  | breaks (cs : List Char)
  /-- Other characters. -/
  | word (cs : List Char)

/-- The parts of a text. -/
def runs : List Char → List Run
  | [] => []
  | c :: cs =>
    if c == ' ' then
      match runs cs with
      | .blanks n :: rs => .blanks (n + 1) :: rs
      | rs => .blanks 1 :: rs
    else if isWrittenBreak c then
      match runs cs with
      | .breaks bs :: rs => .breaks (c :: bs) :: rs
      | rs => .breaks [c] :: rs
    else
      match runs cs with
      | .word ws :: rs => .word (c :: ws) :: rs
      | rs => .word [c] :: rs

/-- Writes line ends inside a text: a line feed alone would be read as a blank, so that one more
comes before it. -/
def breaks (l : Layout) (cs : List Char) (p : Page) : Page :=
  let p := if cs.head? == some '\n' then p.endLine '\n' else p
  (cs.foldl (fun p c => p.endLine c) p).indent l.indent

/-- A text between single quotes, from a part on.  `first` tells whether the part begins the
text. -/
def singleRuns (l : Layout) : Bool → List Run → Page → Page
  | _, [], p => p
  | first, .blanks n :: rs, p =>
    singleRuns l false rs
      (if n == 1 && width < p.column && l.split && !first && !rs.isEmpty then p.indent l.indent
      else p.put (List.replicate n ' '))
  | _, .breaks cs :: rs, p => singleRuns l false rs (p.breaks l cs)
  | _, .word cs :: rs, p =>
    singleRuns l false rs (p.put (cs.flatMap fun c => if c == '\x27' then [c, c] else [c]))

/-- Writes a text between single quotes. -/
def single (l : Layout) (cs : List Char) (p : Page) : Page :=
  (singleRuns l true (runs cs) (p.indicator ['\x27'] true false false)).indicator
    ['\x27'] false false false

/-- A plain text from a part on. -/
def plainRuns (l : Layout) : List Run → Page → Page
  | [], p => p
  | .blanks n :: rs, p =>
    plainRuns l rs
      (if n == 1 && width < p.column && l.split then (p.indent l.indent).insideText
      else p.put (List.replicate n ' '))
  | .breaks cs :: rs, p => plainRuns l rs (p.breaks l cs).insideText
  | .word cs :: rs, p => plainRuns l rs (p.put cs)

/-- Writes a text without quotes. -/
def plain (l : Layout) (cs : List Char) (p : Page) : Page :=
  plainRuns l (runs cs) (if p.blank then p else p.put [' ']).insideText

/-- The letter of an escape. -/
def escapeLetter? : Char → Option Char
  | '\x00' => some '0'
  | '\x07' => some 'a'
  | '\x08' => some 'b'
  | '\t' => some 't'
  | '\n' => some 'n'
  | '\x0b' => some 'v'
  | '\x0c' => some 'f'
  | '\r' => some 'r'
  | '\x1b' => some 'e'
  | '"' => some '"'
  | '\\' => some '\\'
  | '\x85' => some 'N'
  | '\u2028' => some 'L'
  | '\u2029' => some 'P'
  | _ => none

/-- A number in base 16 with upper-case digits, filled up to `n` digits. -/
def upperHex (n v : Nat) : List Char := (Text.hexText n v).map Char.toUpper

/-- The escape of a code point. -/
def escaped (p : CodePoint) : List Char :=
  let n := p.number
  match p.char?.bind escapeLetter? with
  | some l => ['\\', l]
  | none =>
    if n ≤ 0xff then '\\' :: 'x' :: upperHex 2 n
    else if n ≤ 0xffff then '\\' :: 'u' :: upperHex 4 n
    else '\\' :: 'U' :: upperHex 8 n

/-- Whether a character stands for itself between double quotes. -/
def standsForItself (c : Char) : Bool :=
  let n := c.toNat
  c != '"' && c != '\\' && c != '\u2028' && c != '\u2029' && c != '\ufeff' &&
    ((0x20 ≤ n && n ≤ 0x7e) || (0xa0 ≤ n && n ≤ 0xfffd))

/-- Ends a line between double quotes.  A blank at the start of the next line is escaped. -/
def breakDouble (l : Layout) (pending : List Char) (next : Char) (p : Page) : Page :=
  let p := ((p.put (pending.reverse ++ ['\\'])).indent l.indent).insideText
  if next == ' ' then p.put ['\\'] else p

/-- A text between double quotes, from a code point on.  `pending` holds the characters before it
that are still to be written, the last one first. -/
def doublePoints (l : Layout) : Bool → List Char → List CodePoint → Page → Page
  | _, pending, [], p => p.put pending.reverse
  | first, pending, q :: qs, p =>
    let inside := !first && !qs.isEmpty && l.split
    if q.isCharWith standsForItself then
      let c := q.toChar
      if inside && (c == ' ' || pending.isEmpty) && width < p.column + pending.length then
        doublePoints l false [c] qs (p.breakDouble l pending c)
      else doublePoints l false (c :: pending) qs p
    else
      let p := p.put (pending.reverse ++ escaped q)
      let next := (qs.headD (.char ' ')).toChar
      let p := if inside && width + 1 < p.column then p.breakDouble l [] next else p
      doublePoints l false [] qs p

/-- Writes a text between double quotes. -/
def double (l : Layout) (t : Text) (p : Page) : Page :=
  (doublePoints l true [] t.points (p.indicator ['"'] true false false)).indicator
    ['"'] false false false

/-- Writes a text in a style. -/
def styled (style : Style) (l : Layout) (t : Text) (p : Page) : Page :=
  match style with
  | .plain => p.plain l t.chars
  | .single => p.single l t.chars
  | .double => p.double l t

end Page
end Yaml
end WorkflowKit
