/-
# Reading YAML

A YAML text holds at most one document; a text without one stands for the absent value.
-/

import WorkflowKit.Yaml.Document

namespace WorkflowKit
namespace Yaml

/-- The wording of a fault. -/
def Fault.message : Fault → String
  | .malformed => "not YAML"
  | .nested => "maximum recursion depth exceeded"
  | .digits f => f.message
  | .calendar f => f.message
  | .badInt base s =>
    "invalid literal for int() with base " ++ toString base ++ ": " ++
      String.ofList (s.quoted.take 200)
  | .badFloat s => "could not convert string to float: " ++ quotedText s
  | .badBool s => quotedText s
  | .emptyNumber => "string index out of range"
  | .badTimestamp => "\x27NoneType\x27 object has no attribute \x27groupdict\x27"
  | .timestampOfMapping => "expected string or bytes-like object, got \x27list\x27"
  | .badCharacter => "chr() arg not in range(0x110000)"
  | .hugeCharacter => "Python int too large to convert to C int"
  | .hugeFactor => "int too large to convert to float"

/-- The document that a text holds. -/
def readChars (cs : List Char) : Except Fault Doc :=
  if !cs.all isAllowed then .error .malformed
  else do
    let (ts, fault) := tokens cs
    match ← Node.ofTokens? ts fault with
    | none => pure (.scalar .null)
    | some n => n.toDoc

/-- The document that a text holds; a half of a pair stands in no YAML text. -/
def read (t : Text) : Except Fault Doc :=
  match t.chars? with
  | some cs => readChars cs
  | none => .error .malformed

end Yaml
end WorkflowKit
