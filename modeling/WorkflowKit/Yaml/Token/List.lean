/-
# The tokens of a text

Cutting a text into tokens keeps track of

* the columns at which the blocks around a place begin;
* the number of brackets and braces around it;
* for each of these levels, the last place at which a key may have begun: when a colon follows on
  the same line and within 1024 characters, the key is marked there after the fact.

A fault ends the tokens; it counts only for a reader that comes to the end.  Where a key may still
have begun, it is open whether a mark of a key comes first, so that a reader that comes to the place
comes to the end.
-/

import WorkflowKit.Yaml.Token.Mark
import WorkflowKit.Yaml.Token.Scalar

namespace WorkflowKit
namespace Yaml

/-- A place at which a key may have begun. -/
structure KeyStart where
  /-- The number of tokens before the key. -/
  token : Nat
  /-- Whether a key must begin here. -/
  required : Bool
  /-- The offset in the text. -/
  index : Nat
  /-- The line. -/
  line : Nat
  /-- The column. -/
  column : Nat

/-- The greatest distance between the start of a key and its colon. -/
def keyReach : Nat := 1024

/-- What is known at a place of the text. -/
structure Lexer where
  /-- The place. -/
  cursor : Cursor
  /-- The column of the block around the place; -1 outside of blocks. -/
  indent : Int
  /-- The columns of the blocks around that block. -/
  outer : List Int
  /-- The number of brackets and braces around the place. -/
  flow : Nat
  /-- Whether a key may begin here. -/
  allowKey : Bool
  /-- Where keys may have begun, by the number of brackets and braces. -/
  keys : List (Nat × KeyStart)
  /-- The tokens so far, the last one first. -/
  tokens : List Token
  /-- The number of tokens so far. -/
  count : Nat
  /-- The number of tokens is kept up. -/
  count_eq : count = tokens.length

namespace Lexer

/-- The start of a text. -/
def start (cs : List Char) : Lexer := ⟨.start cs, -1, [], 0, true, [], [], 0, rfl⟩

/-- Adds a token. -/
def push (t : Token) (s : Lexer) : Lexer :=
  { s with tokens := t :: s.tokens, count := s.count + 1, count_eq := by simp [s.count_eq] }

/-- Adds a token and moves past its characters. -/
def pushPast (t : Token) (n : Nat) (s : Lexer) : Lexer :=
  { s.push t with cursor := s.cursor.skip n }

/-- Puts tokens, the last one first, before the tokens from number `n` on. -/
def insertAt (n : Nat) (ts : List Token) (s : Lexer) : Lexer :=
  let after := s.count - n
  { s with
    tokens := s.tokens.take after ++ ts ++ s.tokens.drop after
    count := s.count + ts.length
    count_eq := by
      have := s.count_eq
      simp only [List.length_append, List.length_take, List.length_drop]
      omega }

/-- The key that may have begun between the innermost brackets. -/
def key? (s : Lexer) : Option KeyStart :=
  (s.keys.find? fun k => k.1 == s.flow).map Prod.snd

/-- Forgets the key that may have begun between the innermost brackets. -/
def forgetKey (s : Lexer) : Lexer := { s with keys := s.keys.filter fun k => k.1 != s.flow }

/-- Gives up the key that may have begun between the innermost brackets, unless it is required. -/
def dropKey (s : Lexer) : Except Fault Lexer :=
  match s.key? with
  | some k => if k.required then .error .malformed else .ok s.forgetKey
  | none => .ok s

/-- Whether a key can no longer end at a place. -/
def isStale (c : Cursor) (k : KeyStart) : Bool :=
  k.line != c.line || decide (keyReach < c.index - k.index)

/-- Gives up the keys that can no longer end here, unless one is required. -/
def dropStaleKeys (s : Lexer) : Except Fault Lexer :=
  let stale := fun (k : Nat × KeyStart) => isStale s.cursor k.2
  if s.keys.any fun k => stale k && k.2.required then .error .malformed
  else .ok { s with keys := s.keys.filter fun k => !stale k }

/-- Notes that a key may begin here. -/
def noteKey (s : Lexer) : Except Fault Lexer :=
  if s.allowKey then do
    let s ← s.dropKey
    let c := s.cursor
    let required := s.flow == 0 && s.indent == (c.column : Int)
    pure { s with
      keys := (s.flow, ⟨s.count, required, c.index, c.line, c.column⟩) :: s.keys }
  else .ok s

/-- Ends the blocks that begin to the right of a column. -/
def unwind (column : Int) (s : Lexer) : Lexer :=
  if s.flow ≠ 0 then s
  else
    let ended := (s.indent :: s.outer).takeWhile fun i => decide (column < i)
    match (s.indent :: s.outer).drop ended.length with
    | i :: is => ended.foldl (fun s _ => s.push .blockEnd) { s with indent := i, outer := is }
    | [] => s

/-- Begins a block at a column, if that lies to the right of the block around it.  The block starts
with the token of number `n`. -/
def enter (column : Nat) (t : Token) (n : Nat) (s : Lexer) : Lexer :=
  if s.indent < (column : Int) then
    { s with indent := column, outer := s.indent :: s.outer }.insertAt n [t]
  else s

/-- Moves past blanks, comments and line ends.  After a line end outside of brackets a key may
begin. -/
def skipGap : Nat → Lexer → Lexer
  | 0, s => s
  | fuel + 1, s =>
    let c := s.cursor.skipBlanks.skipComment
    if isBreak c.peek then
      skipGap fuel { s with cursor := c.lineBreak.2, allowKey := s.allowKey || s.flow == 0 }
    else { s with cursor := c }

/-- The end of the text. -/
def endStream (s : Lexer) : Except Fault Lexer := do
  let s ← (s.unwind (-1)).dropKey
  pure ({ s with allowKey := false, keys := [] }.push .streamEnd)

/-- A directive. -/
def directive (s : Lexer) : Except Fault Lexer := do
  let s ← (s.unwind (-1)).dropKey
  let (t, c) ← directiveToken s.cursor
  pure ({ s with cursor := c, allowKey := false }.push t)

/-- The start or the end of a document. -/
def documentMark (t : Token) (s : Lexer) : Except Fault Lexer := do
  let s ← (s.unwind (-1)).dropKey
  pure ({ s with allowKey := false }.pushPast t 3)

/-- An opening bracket or brace. -/
def openFlow (t : Token) (s : Lexer) : Except Fault Lexer := do
  let s ← s.noteKey
  pure ({ s with flow := s.flow + 1, allowKey := true }.pushPast t 1)

/-- A closing bracket or brace. -/
def closeFlow (t : Token) (s : Lexer) : Except Fault Lexer := do
  let s ← s.dropKey
  pure ({ s with flow := s.flow - 1, allowKey := false }.pushPast t 1)

/-- A comma. -/
def flowEntry (s : Lexer) : Except Fault Lexer := do
  let s ← s.dropKey
  pure ({ s with allowKey := true }.pushPast .flowEntry 1)

/-- The hyphen before an item. -/
def blockEntry (s : Lexer) : Except Fault Lexer := do
  let s ←
    if s.flow ≠ 0 then pure s
    else if !s.allowKey then .error .malformed
    else pure (s.enter s.cursor.column .blockSequence s.count)
  let s ← s.dropKey
  pure ({ s with allowKey := true }.pushPast .blockEntry 1)

/-- The question mark before a key. -/
def blockKey (s : Lexer) : Except Fault Lexer := do
  let s ←
    if s.flow ≠ 0 then pure s
    else if !s.allowKey then .error .malformed
    else pure (s.enter s.cursor.column .blockMapping s.count)
  let s ← s.dropKey
  pure ({ s with allowKey := s.flow == 0 }.pushPast .key 1)

/-- The colon before a value.  If a key may have begun, it is marked now. -/
def value (s : Lexer) : Except Fault Lexer :=
  match s.key? with
  | some k =>
    let s := s.forgetKey.insertAt k.token [.key]
    let s := if s.flow ≠ 0 then s else s.enter k.column .blockMapping k.token
    .ok ({ s with allowKey := false }.pushPast .value 1)
  | none => do
    let s ←
      if s.flow ≠ 0 then pure s
      else if !s.allowKey then .error .malformed
      else pure (s.enter s.cursor.column .blockMapping s.count)
    let s ← s.dropKey
    pure ({ s with allowKey := s.flow == 0 }.pushPast .value 1)

/-- A token that may be a key. -/
def keyToken (scan : Cursor → Except Fault (Token × Cursor)) (s : Lexer) : Except Fault Lexer := do
  let s ← s.noteKey
  let (t, c) ← scan s.cursor
  pure ({ s with cursor := c, allowKey := false }.push t)

/-- A scalar between quotes. -/
def quoted (double : Bool) (s : Lexer) : Except Fault Lexer :=
  s.keyToken fun c => do
    let (ps, c) ← quotedScalar double c
    pure (.scalar false ⟨ps⟩, c)

/-- A plain scalar. -/
def plain (s : Lexer) : Except Fault Lexer := do
  let s ← s.noteKey
  let (cs, c, broken) := plainScalar ⟨s.flow != 0, s.indent + 1⟩ s.cursor
  pure ({ s with cursor := c, allowKey := broken }.push (.scalar true (.ofChars cs)))

/-- A block scalar. -/
def block (folded : Bool) (s : Lexer) : Except Fault Lexer := do
  let s ← s.dropKey
  let (cs, c) ← blockScalar folded s.indent s.cursor
  pure ({ s with cursor := c, allowKey := true }.push (.scalar false (.ofChars cs)))

/-- Whether a plain scalar begins here. -/
def startsPlain (s : Lexer) : Bool :=
  let c := s.cursor
  let ch := c.peek
  !(endsToken ch || "-?:,[]\x7b\x7d#&*!|>\x27\x22%@\x60".toList.contains ch) ||
    (!endsToken (c.peekAt 1) && (ch == '-' || (s.flow == 0 && (ch == '?' || ch == ':'))))

/-- The next token. -/
def step (s : Lexer) : Except Fault Lexer :=
  let c := s.cursor
  let ch := c.peek
  let wordEnds := endsToken (c.peekAt 1)
  let inFlow := s.flow != 0
  if ch == endMark then s.endStream
  else if ch == '%' && c.column == 0 then s.directive
  else if ch == '-' && c.column == 0 && c.atSeparator then s.documentMark .documentStart
  else if ch == '.' && c.column == 0 && c.atSeparator then s.documentMark .documentEnd
  else if ch == '[' then s.openFlow .flowSequence
  else if ch == '\x7b' then s.openFlow .flowMapping
  else if ch == ']' then s.closeFlow .flowSequenceEnd
  else if ch == '\x7d' then s.closeFlow .flowMappingEnd
  else if ch == ',' then s.flowEntry
  else if ch == '-' && wordEnds then s.blockEntry
  else if ch == '?' && (inFlow || wordEnds) then s.blockKey
  else if ch == ':' && (inFlow || wordEnds) then s.value
  else if ch == '*' then s.keyToken fun c => do
    let (name, c) ← anchorName c
    pure (.reference name, c)
  else if ch == '&' then s.keyToken fun c => do
    let (name, c) ← anchorName c
    pure (.anchor name, c)
  else if ch == '!' then s.keyToken tagToken
  else if ch == '|' && !inFlow then s.block false
  else if ch == '>' && !inFlow then s.block true
  else if ch == '\x27' then s.quoted false
  else if ch == '\x22' then s.quoted true
  else if s.startsPlain then s.plain
  else .error .malformed

/-- Prepares for the next token: moves past what is no token, gives up keys that cannot end any
more, and ends blocks. -/
def advance (s : Lexer) : Except Fault Lexer := do
  let s ← (s.skipGap (s.cursor.left + 1)).dropStaleKeys
  (s.unwind s.cursor.column).step

/-- The tokens that stay as they are, whatever follows: those before the first place at which a key
may still have begun. -/
def settled (s : Lexer) : List Token :=
  let pending := s.keys.filter fun k => !isStale s.cursor k.2
  s.tokens.reverse.take (pending.foldl (fun n k => min n k.2.token) s.count)

/-- The tokens to the end of the text, and the fault that ends them, if there is one. -/
def run : Nat → Lexer → List Token × Option Fault
  | 0, s => (s.tokens.reverse, some .malformed)
  | fuel + 1, s =>
    match s.advance with
    | .error f => (s.settled, some f)
    | .ok t => if t.tokens.head? = some .streamEnd then (t.tokens.reverse, none) else run fuel t

end Lexer

/-- The tokens of a text, and the fault that ends them, if there is one.  A byte order mark at the
start of the text counts for nothing. -/
def tokens (cs : List Char) : List Token × Option Fault :=
  let s := Lexer.start cs
  let s := if s.cursor.peek == '\ufeff' then { s with cursor := s.cursor.next } else s
  s.run (cs.length + 2)

end Yaml
end WorkflowKit
