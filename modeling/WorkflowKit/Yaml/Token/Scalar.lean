/-
# Scalar tokens

Four ways to write a scalar:

* plain, without quotes: it ends before `: `, before ` #`, and within brackets before a comma or a
  bracket;
* between single quotes, where only a quote is written twice;
* between double quotes, with backslash escapes;
* as a block of lines after `|` or `>`, which keeps or folds its line ends.

Within the first three a single line end counts as a blank, and of several line ends the first is
dropped.
-/

import WorkflowKit.Yaml.Token

namespace WorkflowKit
namespace Yaml

/-- A token's characters and the place after it. -/
abbrev Scanned := Except Fault (List Char × Cursor)

/-- A token's code points and the place after it. -/
abbrev ScannedPoints := Except Fault (List CodePoint × Cursor)

/-! ## Between quotes -/

/-- The character of a one-letter escape. -/
def escapeChar? : Char → Option Char
  | '0' => some '\x00'
  | 'a' => some '\x07'
  | 'b' => some '\x08'
  | 't' => some '\t'
  | '\t' => some '\t'
  | 'n' => some '\n'
  | 'v' => some '\x0b'
  | 'f' => some '\x0c'
  | 'r' => some '\r'
  | 'e' => some '\x1b'
  | ' ' => some ' '
  | '"' => some '"'
  | '\\' => some '\\'
  | '/' => some '/'
  | 'N' => some '\x85'
  | '_' => some '\xa0'
  | 'L' => some '\u2028'
  | 'P' => some '\u2029'
  | _ => none

/-- The number of hexadecimal digits after an escape letter. -/
def escapeDigits? : Char → Option Nat
  | 'x' => some 2
  | 'u' => some 4
  | 'U' => some 8
  | _ => none

/-- The code point of a number. -/
def numberedPoint (n : Nat) : Except Fault CodePoint :=
  if 0x80000000 ≤ n then .error .hugeCharacter
  else if 0x110000 ≤ n then .error .badCharacter
  else .ok (.ofNumber n)

/-- The line ends, and the blanks around them, that follow a first line end. -/
def quotedBreaks : Nat → Cursor → Scanned
  | 0, c => .ok ([], c)
  | fuel + 1, c =>
    if c.atSeparator then .error .malformed
    else
      let c := c.dropWhile fun ch => ch == ' ' || ch == '\t'
      if isBreak c.peek then do
        let (b, c) := c.lineBreak
        let (bs, c) ← quotedBreaks fuel c
        pure (b ++ bs, c)
      else .ok ([], c)

/-- The code points of an escape after its backslash. -/
def quotedEscape (fuel : Nat) (c : Cursor) : ScannedPoints :=
  let ch := c.peek
  match escapeChar? ch, escapeDigits? ch with
  | some d, _ => .ok ([.char d], c.next)
  | none, some n =>
    let c := c.next
    let ds := c.rest.take n
    if ds.length = n ∧ ds.all isHexDigit then do
      let d ← numberedPoint (Number.digitsValue 16 ds)
      pure ([d], c.skip n)
    else .error .malformed
  | none, none =>
    if isBreak ch then do
      let (bs, c) ← quotedBreaks fuel c.lineBreak.2
      pure (bs.map .char, c)
    else .error .malformed

/-- Whether a character ends a run of ordinary characters between quotes. -/
def endsQuotedRun (c : Char) : Bool :=
  c == '\x27' || c == '"' || c == '\\' || endsToken c

/-- Code points between quotes up to a blank, a line end or the closing quote. -/
def quotedRun (double : Bool) : Nat → Cursor → ScannedPoints
  | 0, c => .ok ([], c)
  | fuel + 1, c => do
    let (cs, c) := c.takeWhile fun ch => !endsQuotedRun ch
    let ps := cs.map CodePoint.char
    let ch := c.peek
    if !double && ch == '\x27' && c.peekAt 1 == '\x27' then
      let (qs, c) ← quotedRun double fuel (c.skip 2)
      pure (ps ++ .char '\x27' :: qs, c)
    else if (double && ch == '\x27') || (!double && (ch == '"' || ch == '\\')) then
      let (qs, c) ← quotedRun double fuel c.next
      pure (ps ++ .char ch :: qs, c)
    else if double && ch == '\\' then
      let (es, c) ← quotedEscape fuel c.next
      let (qs, c) ← quotedRun double fuel c
      pure (ps ++ es ++ qs, c)
    else pure (ps, c)

/-- A line end, and what follows up to the next character that counts: a single line end becomes a
blank. -/
def foldedBreaks (lineBreak breaks : List Char) : List Char :=
  (if lineBreak ≠ ['\n'] then lineBreak else if breaks.isEmpty then [' '] else []) ++ breaks

/-- Blanks and line ends between quotes. -/
def quotedBlanks (fuel : Nat) (c : Cursor) : Scanned := do
  let (blanks, c) := c.takeWhile fun ch => ch == ' ' || ch == '\t'
  if c.peek == endMark then .error .malformed
  else if isBreak c.peek then
    let (b, c) := c.lineBreak
    let (bs, c) ← quotedBreaks fuel c
    pure (foldedBreaks b bs, c)
  else pure (blanks, c)

/-- The code points up to the closing quote. -/
def quotedRest (double : Bool) (quote : Char) : Nat → Cursor → ScannedPoints
  | 0, _ => .error .malformed
  | fuel + 1, c => do
    let (ps, c) ← quotedRun double (c.left + 1) c
    if c.peek == quote then pure (ps, c.next)
    else
      let (bs, c) ← quotedBlanks (c.left + 1) c
      let (qs, c) ← quotedRest double quote fuel c
      pure (ps ++ bs.map .char ++ qs, c)

/-- A scalar between quotes, from its opening quote on. -/
def quotedScalar (double : Bool) (c : Cursor) : ScannedPoints :=
  quotedRest double c.peek (c.left + 1) c.next

/-! ## Plain -/

/-- What surrounds a plain scalar: whether it stands within brackets, and the least column at
which its lines go on. -/
structure PlainContext where
  /-- Whether the scalar stands within brackets or braces. -/
  inFlow : Bool
  /-- The least column of the lines after the first. -/
  indent : Int

/-- A comma, a bracket or a brace. -/
def isFlowIndicator (c : Char) : Bool :=
  c == ',' || c == '[' || c == ']' || c == '\x7b' || c == '\x7d'

/-- The characters of a plain scalar up to a blank, a line end or what ends the scalar. -/
def plainRun (inFlow : Bool) : List Char → List Char
  | [] => []
  | c :: cs =>
    let following := cs.headD endMark
    if endsToken c ||
        (c == ':' && (endsToken following || (inFlow && isFlowIndicator following))) ||
        (inFlow && (c == '?' || isFlowIndicator c)) then []
    else c :: plainRun inFlow cs

/-- The line ends after a first one, with the blanks before them, up to a document separator. -/
def plainBreaks : Nat → Cursor → Option (List Char) × Cursor
  | 0, c => (some [], c)
  | fuel + 1, c =>
    let c := c.skipBlanks
    if isBreak c.peek then
      let (b, c) := c.lineBreak
      if c.atSeparator then (none, c)
      else
        let (bs, c) := plainBreaks fuel c
        (bs.map (b ++ ·), c)
    else (some [], c)

/-- What stands between two runs of a plain scalar: nothing if the scalar ends there.  The last
part of the result tells whether there is a line end. -/
def plainBlanks (c : Cursor) : List Char × Cursor × Bool :=
  let (blanks, c) := c.takeWhile (· == ' ')
  if isBreak c.peek then
    let (b, c) := c.lineBreak
    if c.atSeparator then ([], c, true)
    else
      match plainBreaks (c.left + 1) c with
      | (none, c) => ([], c, true)
      | (some bs, c) => (foldedBreaks b bs, c, true)
  else (blanks, c, false)

/-- The rest of a plain scalar.  `blanks` stand before the place, and `broken` tells whether a line
ends among them. -/
def plainRest (ctx : PlainContext) : Nat → List Char → Bool → Cursor → List Char × Cursor × Bool
  | 0, _, broken, c => ([], c, broken)
  | fuel + 1, blanks, broken, c =>
    let run := if c.peek == '#' then [] else plainRun ctx.inFlow c.rest
    if run.isEmpty then ([], c, broken)
    else
      let (blanks', c, broken') := plainBlanks (c.skip run.length)
      if blanks'.isEmpty || c.peek == '#' || (!ctx.inFlow && (c.column : Int) < ctx.indent) then
        (blanks ++ run, c, broken')
      else
        let (more, c, broken'') := plainRest ctx fuel blanks' broken' c
        (blanks ++ run ++ more, c, broken'')

/-- A plain scalar, the place after it, and whether a line ends just before that place. -/
def plainScalar (ctx : PlainContext) (c : Cursor) : List Char × Cursor × Bool :=
  plainRest ctx (c.left + 1) [] false c

/-! ## Blocks -/

/-- What becomes of the line ends at the end of a block. -/
inductive Chomping
  /-- The last line end is kept, and blank lines after it are dropped. -/
  | clip
  /-- All line ends are dropped. -/
  | strip
  /-- All line ends are kept. -/
  | keep
  deriving DecidableEq, Repr

/-- The sign that sets the chomping. -/
def chomping? : Char → Option Chomping
  | '+' => some .keep
  | '-' => some .strip
  | _ => none

/-- The digit that sets the indentation; zero is refused. -/
def increment? (c : Cursor) : Except Fault (Option Nat × Cursor) :=
  if c.peek.isDigit then
    let n := c.peek.toNat - '0'.toNat
    if n = 0 then .error .malformed else .ok (some n, c.next)
  else .ok (none, c)

/-- The chomping and the indentation that a block states, in either order. -/
def blockHeader (c : Cursor) : Except Fault (Chomping × Option Nat × Cursor) := do
  let (chomping, increment, c) ←
    match chomping? c.peek with
    | some k => do
      let (n, c) ← increment? c.next
      pure (k, n, c)
    | none => do
      let (n, c) ← increment? c
      match n, chomping? c.peek with
      | some _, some k => pure (k, n, c.next)
      | _, _ => pure (Chomping.clip, n, c)
  if endsWord c.peek then pure (chomping, increment, c) else .error .malformed

/-- The blank lines before a block and the greatest indentation among them and of the first line
of the block. -/
def blockIndentation : Nat → Nat → Cursor → List Char × Nat × Cursor
  | 0, deepest, c => ([], deepest, c)
  | fuel + 1, deepest, c =>
    let deepest := if c.peek == ' ' then max deepest c.skipBlanks.column else deepest
    let c := c.skipBlanks
    if isBreak c.peek then
      let (b, c) := c.lineBreak
      let (bs, deepest, c) := blockIndentation fuel deepest c
      (b ++ bs, deepest, c)
    else ([], deepest, c)

/-- The place after the blanks up to a column. -/
def skipIndent (indent : Nat) (c : Cursor) : Cursor :=
  c.skip ((c.rest.takeWhile (· == ' ')).take (indent - c.column)).length

/-- The blank lines inside a block. -/
def blockBreaks (indent : Nat) : Nat → Cursor → List Char × Cursor
  | 0, c => ([], c)
  | fuel + 1, c =>
    let c := skipIndent indent c
    if isBreak c.peek then
      let (b, c) := c.lineBreak
      let (bs, c) := blockBreaks indent fuel c
      (b ++ bs, c)
    else ([], c)

/-- The lines of a block.  The result ends with the last line end and the blank lines after it,
kept apart. -/
def blockLines (folded : Bool) (indent : Nat) :
    Nat → List Char → Cursor → List Char × List Char × List Char × Cursor
  | 0, breaks, c => ([], [], breaks, c)
  | fuel + 1, breaks, c =>
    if c.column = indent ∧ c.peek ≠ endMark then
      let flush := c.peek != ' ' && c.peek != '\t'
      let (line, c) := c.takeWhile fun ch => !isBreak ch
      let (b, c) := c.lineBreak
      let (breaks', c) := blockBreaks indent (c.left + 1) c
      if c.column = indent ∧ c.peek ≠ endMark then
        let joint :=
          if folded && b == ['\n'] && flush && c.peek != ' ' && c.peek != '\t' then
            (if breaks'.isEmpty then [' '] else [])
          else b
        let (more, b, bs, c) := blockLines folded indent fuel breaks' c
        (breaks ++ line ++ joint ++ more, b, bs, c)
      else (breaks ++ line, b, breaks', c)
    else ([], [], breaks, c)

/-- A block after its indicator, inside a block of indentation `parent`. -/
def blockScalar (folded : Bool) (parent : Int) (c : Cursor) : Scanned := do
  let (chomping, increment, c) ← blockHeader c.next
  let c ← c.restOfLine
  let least := max 1 (parent + 1).toNat
  let (breaks, indent, c) := match increment with
    | none =>
      let (bs, deepest, c) := blockIndentation (c.left + 1) 0 c
      (bs, max least deepest, c)
    | some n =>
      let indent := least + n - 1
      let (bs, c) := blockBreaks indent (c.left + 1) c
      (bs, indent, c)
  let (text, b, bs, c) := blockLines folded indent (c.left + 1) breaks c
  pure (match chomping with
    | .strip => (text, c)
    | .clip => (text ++ b, c)
    | .keep => (text ++ b ++ bs, c))

end Yaml
end WorkflowKit
