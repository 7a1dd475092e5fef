/-
# Reading JSON

JSON texts with three additions: the numbers `NaN`, `Infinity` and `-Infinity`.  An integer stays
apart from a floating-point number, a mapping keeps the order of its keys, and of equal keys the
last value counts.

A fault names the place where reading stopped, as line, column and offset.  Only line feeds end a
line.

Two escapes for the halves of a pair write one character; a half alone stands for itself.
-/

import WorkflowKit.Value

namespace WorkflowKit
namespace Json

open Number (Binary64 DigitFault)

/-- What is wrong at a place of the text. -/
inductive Mistake
  /-- A byte order mark stands before the text. -/
  | byteOrderMark
  /-- No value begins here. -/
  | noValue
  /-- No key begins here. -/
  | noKey
  /-- There is no `:` after a key. -/
  | noColon
  /-- There is no `,` after an item or entry. -/
  | noComma
  /-- A text that begins here does not end. -/
  | openText
  /-- A text holds a control character. -/
  | controlCharacter
  /-- A backslash is followed by no escape. -/
  | badEscape
  /-- `\u` is not followed by four hexadecimal digits. -/
  | badCodeEscape
  /-- Something follows the value. -/
  | trailing
  deriving DecidableEq, Repr

/-- The wording of a mistake. -/
def Mistake.message : Mistake → String
  | .byteOrderMark => "Unexpected UTF-8 BOM (decode using utf-8-sig)"
  | .noValue => "Expecting value"
  | .noKey => "Expecting property name enclosed in double quotes"
  | .noColon => "Expecting \x27:\x27 delimiter"
  | .noComma => "Expecting \x27,\x27 delimiter"
  | .openText => "Unterminated string starting at"
  | .controlCharacter => "Invalid control character at"
  | .badEscape => "Invalid \\escape"
  | .badCodeEscape => "Invalid \\uXXXX escape"
  | .trailing => "Extra data"

/-- Why a text cannot be read. -/
inductive Fault
  /-- The text is not JSON. -/
  | malformed (mistake : Mistake) (position : Nat)
  /-- An integer is too long. -/
  | digits (fault : DigitFault)
  deriving Repr

/-- A place in a text: its offset, and what follows. -/
structure Cursor where
  /-- The number of code points before the place. -/
  pos : Nat
  /-- The code points from the place on. -/
  rest : List CodePoint

/-- The blanks between tokens. -/
def isGap (c : Char) : Bool :=
  c == ' ' || c == '\t' || c == '\n' || c == '\r'

/-- Moves past blanks. -/
def skipGap (pos : Nat) : List CodePoint → Cursor
  | [] => ⟨pos, []⟩
  | p :: ps => if p.isCharWith isGap then skipGap (pos + 1) ps else ⟨pos, p :: ps⟩

/-- The place after the blanks. -/
def Cursor.skip (c : Cursor) : Cursor := skipGap c.pos c.rest

/-- The number of four hexadecimal digits at the start of a text. -/
def fourHexDigits? : List CodePoint → Option Nat
  | .char a :: .char b :: .char c :: .char d :: _ =>
    [a, b, c, d].foldlM (fun n x => match Number.digitValue? x with
      | some v => if v < 16 then some (16 * n + v) else none
      | none => none) 0
  | _ => none

/-- The character of a one-letter escape. -/
def shortEscape? : Char → Option Char
  | '"' => some '"'
  | '\\' => some '\\'
  | '/' => some '/'
  | 'b' => some '\x08'
  | 'f' => some '\x0c'
  | 'n' => some '\n'
  | 'r' => some '\r'
  | 't' => some '\t'
  | _ => none

/-- Whether a number is the first half of a pair that writes one character. -/
def isHighHalf (n : Nat) : Bool := 0xd800 ≤ n && n < 0xdc00

/-- Whether a number is the second half of a pair that writes one character. -/
def isLowHalf (n : Nat) : Bool := 0xdc00 ≤ n && n < 0xe000

/-- The code point of an escape and its length after the backslash.  `opening` is the place of the
quote before the text, `pos` that of the backslash, `ps` follows the backslash. -/
def escape (opening pos : Nat) (ps : List CodePoint) : Except Fault (CodePoint × Nat) :=
  match ps with
  | [] => .error (.malformed .openText opening)
  | .char 'u' :: ds =>
    if (ds.drop 4).isEmpty then .error (.malformed .badCodeEscape (pos + 1))
    else match fourHexDigits? ds with
      | none => .error (.malformed .badCodeEscape (pos + 1))
      | some n =>
        let es := ds.drop 4
        if isHighHalf n && !(es.drop 6).isEmpty && es.take 2 == [.char '\\', .char 'u'] then
          match fourHexDigits? (es.drop 2) with
          | none => .error (.malformed .badCodeEscape (pos + 7))
          | some m =>
            if isLowHalf m then
              .ok (.char (Char.ofNat (0x10000 + (n - 0xd800) * 0x400 + (m - 0xdc00))), 11)
            else .ok (.ofNumber n, 5)
        else .ok (.ofNumber n, 5)
  | p :: _ =>
    match p.char?.bind shortEscape? with
    | some d => .ok (.char d, 1)
    | none => .error (.malformed .badEscape pos)

/-- The rest of a text, whose quote stands at `opening`.  `skipped` counts the code points that
belong to the escape before, `acc` holds what is read in reverse. -/
def textBody (opening : Nat) (acc : List CodePoint) :
    Nat → Nat → List CodePoint → Except Fault (Text × Cursor)
  | _, _, [] => .error (.malformed .openText opening)
  | skipped + 1, pos, _ :: ps => textBody opening acc skipped (pos + 1) ps
  | 0, pos, p :: ps =>
    if p = .char '"' then .ok (⟨acc.reverse⟩, ⟨pos + 1, ps⟩)
    else if p = .char '\\' then
      match escape opening pos ps with
      | .ok (q, n) => textBody opening (q :: acc) n (pos + 1) ps
      | .error f => .error f
    else if p.number < 0x20 then .error (.malformed .controlCharacter pos)
    else textBody opening (p :: acc) 0 (pos + 1) ps

/-- A number at the start of a text: its sign, the digits before and after the point, the exponent
if there is one, and what follows. -/
structure NumberToken where
  /-- Whether there is a minus sign. -/
  negative : Bool
  /-- The digits before the point. -/
  whole : List Char
  /-- The digits after the point, if there is one. -/
  fraction : Option (List Char)
  /-- The exponent, if there is one. -/
  exponent : Option Int
  /-- The number of characters. -/
  length : Nat

/-- The point and the digits after it, if a digit follows the point. -/
def fraction? : List Char → Option (List Char)
  | '.' :: cs =>
    let ds := cs.takeWhile Char.isDigit
    if ds.isEmpty then none else some ds
  | _ => none

/-- The exponent and its number of characters, if a digit follows the letter and the sign. -/
def exponent? : List Char → Option (Int × Nat)
  | e :: cs =>
    if e = 'e' ∨ e = 'E' then
      let (negative, signs, cs) : Bool × Nat × List Char := match cs with
        | '-' :: cs => (true, 1, cs)
        | '+' :: cs => (false, 1, cs)
        | cs => (false, 0, cs)
      let ds := cs.takeWhile Char.isDigit
      if ds.isEmpty then none
      else
        let n : Int := Number.digitsValue 10 ds
        some (if negative then -n else n, 1 + signs + ds.length)
    else none
  | [] => none

/-- The digits before the point: a zero stands alone. -/
def wholeDigits : List Char → List Char
  | '0' :: _ => ['0']
  | cs => cs.takeWhile Char.isDigit

/-- The number at the start of a text after its sign. -/
def unsignedToken? (negative : Bool) (cs : List Char) : Option NumberToken :=
  let whole := wholeDigits cs
  if whole.isEmpty then none
  else
    let afterWhole := cs.drop whole.length
    let fraction := fraction? afterWhole
    let used := match fraction with
      | some f => f.length + 1
      | none => 0
    let exponent := exponent? (afterWhole.drop used)
    some
      { negative
        whole
        fraction
        exponent := exponent.map Prod.fst
        length := (if negative then 1 else 0) + whole.length + used +
          (match exponent with
            | some (_, n) => n
            | none => 0) }

/-- The number at the start of a text. -/
def numberToken? : List Char → Option NumberToken
  | '-' :: cs => unsignedToken? true cs
  | cs => unsignedToken? false cs

/-- The value of a number: an integer if it has neither fraction nor exponent. -/
def NumberToken.value (t : NumberToken) : Except Fault Value :=
  match t.fraction, t.exponent with
  | none, none =>
    match Number.readDigits t.whole with
    | .ok n => .ok (.int (if t.negative then -(n : Int) else n))
    | .error f => .error (.digits f)
  | fraction, exponent =>
    let f := fraction.getD []
    .ok (.float (Binary64.ofDecimal t.negative (Number.digitsValue 10 (t.whole ++ f))
      (exponent.getD 0 - f.length)))

/-- What becomes of a number, by its characters and its parts. -/
abbrev NumberReading := List Char → NumberToken → Except Fault Value

/-- A number becomes its value. -/
def asValue : NumberReading := fun _ t => t.value

/-- The words that stand for values. -/
def wordValues : List (List Char × Value) :=
  [("null".toList, .null), ("true".toList, .bool true), ("false".toList, .bool false),
    ("NaN".toList, .float (.nan 1)), ("Infinity".toList, .float (.infinite false)),
    ("-Infinity".toList, .float (.infinite true))]

/-- The characters that numbers are written with. -/
def isNumberChar (c : Char) : Bool :=
  c.isDigit || c == '-' || c == '+' || c == '.' || c == 'e' || c == 'E'

/-- The characters from a place on that numbers are written with. -/
def Cursor.numberChars (c : Cursor) : List Char :=
  (c.rest.takeWhile (·.isCharWith isNumberChar)).map CodePoint.toChar

/-- A word or a number. -/
def atom (number : NumberReading) (c : Cursor) : Except Fault (Value × Cursor) :=
  match wordValues.find? fun w => (w.1.map CodePoint.char).isPrefixOf c.rest with
  | some (w, v) => .ok (v, ⟨c.pos + w.length, c.rest.drop w.length⟩)
  | none =>
    match numberToken? c.numberChars with
    | none => .error (.malformed .noValue c.pos)
    | some t => do
      let v ← number (c.numberChars.take t.length) t
      pure (v, ⟨c.pos + t.length, c.rest.drop t.length⟩)

mutual

/-- The value at a place. -/
def value (number : NumberReading) : Nat → Cursor → Except Fault (Value × Cursor)
  | 0, c => .error (.malformed .noValue c.pos)
  | fuel + 1, c =>
    match c.rest with
    | .char '"' :: cs => do
      let (s, c) ← textBody c.pos [] 0 (c.pos + 1) cs
      pure (.text s, c)
    | .char '\x7b' :: cs =>
      let d := skipGap (c.pos + 1) cs
      match d.rest with
      | .char '\x7d' :: cs => .ok (.map [], ⟨d.pos + 1, cs⟩)
      | _ => entries number fuel [] d
    | .char '[' :: cs =>
      let d := skipGap (c.pos + 1) cs
      match d.rest with
      | .char ']' :: cs => .ok (.list [], ⟨d.pos + 1, cs⟩)
      | _ => items number fuel [] d
    | _ => atom number c

/-- The items of a list from an item on; `acc` holds those before it in reverse. -/
def items (number : NumberReading) : Nat → List Value → Cursor → Except Fault (Value × Cursor)
  | 0, _, c => .error (.malformed .noValue c.pos)
  | fuel + 1, acc, c => do
    let (v, c) ← value number fuel c
    let c := c.skip
    match c.rest with
    | .char ']' :: cs => pure (.list (v :: acc).reverse, ⟨c.pos + 1, cs⟩)
    | .char ',' :: cs => items number fuel (v :: acc) (skipGap (c.pos + 1) cs)
    | _ => .error (.malformed .noComma c.pos)

/-- The entries of a mapping from a key on; `acc` holds those before it in reverse. -/
def entries (number : NumberReading) :
    Nat → List (Text × Value) → Cursor → Except Fault (Value × Cursor)
  | 0, _, c => .error (.malformed .noKey c.pos)
  | fuel + 1, acc, c =>
    match c.rest with
    | .char '"' :: cs => do
      let (k, c) ← textBody c.pos [] 0 (c.pos + 1) cs
      let c := c.skip
      match c.rest with
      | .char ':' :: cs =>
        let (v, c) ← value number fuel (skipGap (c.pos + 1) cs)
        let c := c.skip
        match c.rest with
        | .char '\x7d' :: cs =>
          pure (.map (distinctEntries ((k, v) :: acc).reverse), ⟨c.pos + 1, cs⟩)
        | .char ',' :: cs => entries number fuel ((k, v) :: acc) (skipGap (c.pos + 1) cs)
        | _ => .error (.malformed .noComma c.pos)
      | _ => .error (.malformed .noColon c.pos)
    | _ => .error (.malformed .noKey c.pos)

end

/-- The value that a text holds, with nothing but blanks around it. -/
def read (t : Text) (number : NumberReading := asValue) : Except Fault Value :=
  match t.points with
  | .char '\ufeff' :: _ => .error (.malformed .byteOrderMark 0)
  | ps => do
    let (v, c) ← value number (ps.length + 1) (skipGap 0 ps)
    let c := c.skip
    if c.rest.isEmpty then pure v else .error (.malformed .trailing c.pos)

/-- The wording of a mistake at an offset of a text, with the line and the column there. -/
def locate (t : Text) (mistake : Mistake) (position : Nat) : String :=
  let before := t.chars.take position
  let line := before.count '\n' + 1
  let column := (before.reverse.takeWhile (· ≠ '\n')).length + 1
  mistake.message ++ ": line " ++ toString line ++ " column " ++ toString column ++
    " (char " ++ toString position ++ ")"

end Json
end WorkflowKit
