/-
# Anchors, tags and directives

The tokens that begin with `&`, `*`, `!` and `%`.  A tag is written

* `!<uri>`, in full;
* `!`, alone;
* as a handle (`!`, `!!` or `!name!`) and the rest of a URI.

In a URI a byte of an encoded character may be written as `%` and two hexadecimal digits.
-/

import WorkflowKit.Yaml.Token

namespace WorkflowKit
namespace Yaml

/-- The name of an anchor or alias after its indicator. -/
def anchorName (c : Cursor) : Except Fault (String × Cursor) :=
  let (name, c) := c.next.takeWhile isNameChar
  let ch := c.peek
  if name.isEmpty then .error .malformed
  else if endsToken ch || ['?', ':', ',', ']', '\x7d', '%', '@', '\x60'].contains ch then
    .ok (String.ofList name, c)
  else .error .malformed

/-- The characters of a URI besides letters and digits. -/
def uriMarks : List Char :=
  ['-', ';', '/', '?', ':', '@', '&', '=', '+', '$', ',', '_', '.', '!', '~', '*', '\x27', '(',
    ')', '[', ']', '%']

/-- The bytes written by `%` and two digits each, from a place on. -/
def uriBytes : Nat → Cursor → Except Fault (List UInt8 × Cursor)
  | 0, c => .ok ([], c)
  | fuel + 1, c =>
    if c.peek == '%' then
      let ds := c.next.rest.take 2
      if ds.length = 2 ∧ ds.all isHexDigit then do
        let (bs, c) ← uriBytes fuel (c.skip 3)
        pure (UInt8.ofNat (Number.digitsValue 16 ds) :: bs, c)
      else .error .malformed
    else .ok ([], c)

/-- The characters of a URI. -/
def uriChars : Nat → Cursor → Except Fault (List Char × Cursor)
  | 0, c => .ok ([], c)
  | fuel + 1, c =>
    let ch := c.peek
    if ch == '%' then do
      let (bs, c) ← uriBytes (c.left + 1) c
      match String.fromUTF8? (ByteArray.mk bs.toArray) with
      | none => .error .malformed
      | some s =>
        let (cs, c) ← uriChars fuel c
        pure (s.toList ++ cs, c)
    else if ch.isAlphanum || uriMarks.contains ch then do
      let (cs, c) ← uriChars fuel c.next
      pure (ch :: cs, c)
    else .ok ([], c)

/-- A URI of at least one character. -/
def uri (c : Cursor) : Except Fault (String × Cursor) := do
  let start := c.index
  let (cs, c) ← uriChars (c.left + 1) c
  if c.index = start then .error .malformed else pure (String.ofList cs, c)

/-- The handle of a tag: `!`, `!!` or `!name!`.  A lone `!` must be followed by a blank. -/
def tagHandle (c : Cursor) : Except Fault (String × Cursor) :=
  if c.peek != '!' then .error .malformed
  else if c.peekAt 1 == ' ' then .ok ("!", c.next)
  else
    let (name, c) := c.next.takeWhile isNameChar
    if c.peek == '!' then .ok (String.ofList ('!' :: name ++ ['!']), c.next)
    else .error .malformed

/-- A tag. -/
def tagToken (c : Cursor) : Except Fault (Token × Cursor) := do
  let ch := c.peekAt 1
  let (handle, suffix, c) ←
    if ch == '<' then do
      let (suffix, c) ← uri (c.skip 2)
      if c.peek == '>' then pure (none, suffix, c.next) else .error .malformed
    else if endsToken ch then pure (none, "!", c.next)
    else do
      let (handle, c) ←
        if (c.next.rest.takeWhile fun ch => !endsWord ch).contains '!' then tagHandle c
        else pure ("!", c.next)
      let (suffix, c) ← uri c
      pure (some handle, suffix, c)
  if endsWord c.peek then pure (.tag handle suffix, c) else .error .malformed

/-- A decimal number. -/
def decimalNumber (c : Cursor) : Except Fault (Nat × Cursor) :=
  let (ds, c) := c.takeWhile Char.isDigit
  if ds.isEmpty then .error .malformed
  else match Number.readDigits ds with
    | .ok n => .ok (n, c)
    | .error f => .error (.digits f)

/-- The version of YAML: two numbers. -/
def versionDirective (c : Cursor) : Except Fault (Directive × Cursor) := do
  let (major, c) ← decimalNumber c.skipBlanks
  if c.peek == '.' then
    let (_, c) ← decimalNumber c.next
    if endsWord c.peek then pure (.version major, c) else .error .malformed
  else .error .malformed

/-- What a handle stands for. -/
def handleDirective (c : Cursor) : Except Fault (Directive × Cursor) := do
  let (handle, c) ← tagHandle c.skipBlanks
  if c.peek == ' ' then
    let (meaning, c) ← uri c.skipBlanks
    if endsWord c.peek then pure (.handle handle meaning, c) else .error .malformed
  else .error .malformed

/-- A directive, with the line that it stands on. -/
def directiveToken (c : Cursor) : Except Fault (Token × Cursor) := do
  let (name, c) := c.next.takeWhile isNameChar
  if name.isEmpty || !endsWord c.peek then .error .malformed
  else
    let (d, c) ←
      match String.ofList name with
      | "YAML" => versionDirective c
      | "TAG" => handleDirective c
      | _ => pure (Directive.other, c.dropWhile fun ch => !isBreak ch)
    let c ← c.restOfLine
    pure (.directive d, c)

end Yaml
end WorkflowKit
