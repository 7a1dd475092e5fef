/-
# Properties

A table of keys and values, in order of the first occurrence of the keys.  In a text every line
has a key, `=` or `:`, and a value; blanks around both count for nothing.  Lines that begin with
`#` or `!` are comments, and a line without a separator behind its first character is passed over.

Property text, keys and values are strings: lone halves of pairs, which a `Text` may hold, do not
occur in them.
-/

import WorkflowKit.Text.Blank
import WorkflowKit.Value

namespace WorkflowKit
namespace Template

/-- The number of characters before the first `c`, if there is one and it is not the first. -/
def separator? (c : Char) (cs : List Char) : Option Nat :=
  let n := (cs.takeWhile (· ≠ c)).length
  if 0 < n ∧ n < cs.length then some n else none

/-- The place at which a line is cut into key and value. -/
def cut? (cs : List Char) : Option Nat :=
  match separator? '=' cs, separator? ':' cs with
  | some a, some b => some (min a b)
  | some a, none => some a
  | none, b => b

/-- The key and the value of a line. -/
def property? (line : List Char) : Option (String × String) :=
  let cs := Text.strip line
  match cs with
  | [] => none
  | c :: _ =>
    if c = '#' ∨ c = '!' then none
    else (cut? cs).map fun n =>
      (String.ofList (Text.strip (cs.take n)), String.ofList (Text.strip (cs.drop (n + 1))))

/-- The properties that a text gives. -/
def propertiesOfText (s : String) : List (String × String) :=
  distinctEntries ((Text.lines s.toList).filterMap property?)

/-- The properties that a file with a text gives. -/
def propertiesOfFile (s : String) : List (String × String) :=
  propertiesOfText (String.ofList (Text.universalNewlines s.toList))

end Template
end WorkflowKit
