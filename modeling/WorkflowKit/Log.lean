/-
# Levels of messages

A message is shown if its level is not below a threshold.  The threshold is given by the name of a
level in any case; some levels have two names.
-/

import WorkflowKit.Text.Case
import WorkflowKit.Value

namespace WorkflowKit
namespace Log

/-- How a line of the log is made. -/
def lineFormat : String := "%(asctime)s - %(name)s - %(levelname)s - %(message)s"

/-- How a line of the log is made without its time.  It has a name, but is no level. -/
def shortFormat : String × String := ("BASIC_FORMAT", "%(levelname)s:%(name)s:%(message)s")

/-- The styles in which such a line can be described: the mark of a style, its name, and the line.
The table of them has a name as well. -/
def styles : String × List (String × String × String) :=
  ("_STYLES",
    [("%", "PercentStyle", shortFormat.2),
      ("\x7b", "StrFormatStyle", "\x7blevelname\x7d:\x7bname\x7d:\x7bmessage\x7d"),
      ("$", "StringTemplateStyle", "$\x7blevelname\x7d:$\x7bname\x7d:$\x7bmessage\x7d")])

/-- How the table of styles is shown. -/
def stylesText : String :=
  let shown := styles.2.map fun (mark, name, line) =>
    quotedText mark ++ ": (<class " ++ quotedText ("logging." ++ name) ++ ">, " ++
      quotedText line ++ ")"
  "\x7b" ++ String.intercalate ", " shown ++ "\x7d"

/-- The levels by their names. -/
def levels : List (String × Nat) :=
  [("DEBUG", 10), ("INFO", 20), ("WARNING", 30), ("WARN", 30), ("ERROR", 40), ("CRITICAL", 50),
    ("FATAL", 50), ("NOTSET", 0)]

/-- Why a name gives no threshold. -/
inductive LevelFault
  /-- The name is unknown. -/
  | unknown (name : Text)
  /-- The name stands for a text that is no level. -/
  | notLevel (text : String)
  /-- The name stands for something that is shown like this. -/
  | notText (shown : String)
  deriving DecidableEq, Repr

/-- The wording of a name that gives no threshold. -/
def LevelFault.message : LevelFault → Text
  | unknown name =>
    Text.ofString "module \x27logging\x27 has no attribute \x27" ++ name ++ Text.ofString "\x27"
  | notLevel text => "Unknown level: " ++ quotedText text
  | notText shown => "Level not an integer or a valid string: " ++ shown

/-- The threshold of a name. -/
def threshold (name : Text) : Except LevelFault Nat :=
  let name := name.upper
  match levels.find? fun e => .ofString e.1 == name with
  | some (_, n) => .ok n
  | none =>
    .error (if name = .ofString shortFormat.1 then .notLevel shortFormat.2
      else if name = .ofString styles.1 then .notText stylesText
      else .unknown name)

end Log
end WorkflowKit
