/-
# Timestamps

A timestamp is a date, `2024-03-01`, or a date with a time: after `T` or blanks the hour, minutes
and seconds, a fraction of a second, and the offset from universal time, `Z` or a sign with hours
and perhaps minutes.  Of a fraction six digits count.
-/

import WorkflowKit.Yaml.Cursor

namespace WorkflowKit
namespace Yaml

/-- The numbers of a time of day, and its offset in minutes. -/
structure TimeParts where
  /-- The hour. -/
  hour : Nat
  /-- The minutes. -/
  minute : Nat
  /-- The seconds. -/
  second : Nat
  /-- Millionths of a second. -/
  micro : Nat
  /-- The offset from universal time, if there is one. -/
  offset : Option Int

/-- The numbers of a timestamp. -/
structure TimestampParts where
  /-- The year. -/
  year : Nat
  /-- The month. -/
  month : Nat
  /-- The day. -/
  day : Nat
  /-- Whether month and day have two digits. -/
  padded : Bool
  /-- The time of day, if there is one. -/
  time : Option TimeParts

/-- A number of at least `least` and at most `most` digits, and what follows. -/
def digitRun? (least most : Nat) (cs : List Char) : Option (List Char × List Char) :=
  let ds := (cs.takeWhile Char.isDigit).take most
  if ds.length < least then none else some (ds, cs.drop ds.length)

/-- What follows one character. -/
def after? (c : Char) : List Char → Option (List Char)
  | [] => none
  | d :: cs => if c = d then some cs else none

/-- The value of decimal digits. -/
def decimal (ds : List Char) : Nat := Number.digitsValue 10 ds

/-- The millionths of a second of a fraction. -/
def microOf (ds : List Char) : Nat :=
  let ds := ds.take 6
  decimal (ds ++ List.replicate (6 - ds.length) '0')

/-- The offset at the end of a timestamp. -/
def offset? (cs : List Char) : Option (Option Int) :=
  match cs.dropWhile fun c => c == ' ' || c == '\t' with
  | [] => if cs.isEmpty then some none else none
  | ['Z'] => some (some 0)
  | sign :: cs =>
    if sign ≠ '+' ∧ sign ≠ '-' then none
    else do
      let (h, cs) ← digitRun? 1 2 cs
      let minutes ←
        if cs.isEmpty then pure 0
        else do
          let cs ← after? ':' cs
          let (m, cs) ← digitRun? 2 2 cs
          if cs.isEmpty then pure (decimal m) else none
      let n : Int := decimal h * 60 + minutes
      pure (some (if sign = '-' then -n else n))

/-- The fraction of a second and the offset. -/
def fractionAndOffset? : List Char → Option (Nat × Option Int)
  | '.' :: cs =>
    let ds := cs.takeWhile Char.isDigit
    (offset? (cs.drop ds.length)).map fun o => (microOf ds, o)
  | cs => (offset? cs).map fun o => (0, o)

/-- The time of day. -/
def time? (cs : List Char) : Option TimeParts := do
  let (h, cs) ← digitRun? 1 2 cs
  let (m, cs) ← digitRun? 2 2 (← after? ':' cs)
  let (s, cs) ← digitRun? 2 2 (← after? ':' cs)
  let (micro, offset) ← fractionAndOffset? cs
  pure ⟨decimal h, decimal m, decimal s, micro, offset⟩

/-- What separates the date from the time: `T`, or blanks. -/
def timeStart? : List Char → Option (List Char)
  | c :: cs =>
    if c = 'T' ∨ c = 't' then some cs
    else if c = ' ' ∨ c = '\t' then some (cs.dropWhile fun c => c == ' ' || c == '\t')
    else none
  | [] => none

/-- The numbers of a timestamp. -/
def timestampParts? (cs : List Char) : Option TimestampParts := do
  let (y, cs) ← digitRun? 4 4 cs
  let (m, cs) ← digitRun? 1 2 (← after? '-' cs)
  let (d, cs) ← digitRun? 1 2 (← after? '-' cs)
  let padded := m.length == 2 && d.length == 2
  let time ← if cs.isEmpty then pure none else some <$> ((timeStart? cs).bind time?)
  pure ⟨decimal y, decimal m, decimal d, padded, time⟩

/-- Whether a text that is not marked as a timestamp counts as one: a date alone must have two
digits for month and day. -/
def isTimestamp (cs : List Char) : Bool :=
  match timestampParts? cs with
  | some p => p.time.isSome || p.padded
  | none => false

end Yaml
end WorkflowKit
