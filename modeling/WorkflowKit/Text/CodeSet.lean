/-
# Sets and maps of code points

Properties of characters beyond ASCII are data of the Unicode standard
(version 14.0).  A property is written as a text of hexadecimal entries,
separated by blanks:

| entry | meaning |
| --- | --- |
| `a1` | the code point U+00A1 |
| `a1-bf` | every code point from U+00A1 to U+00BF |
| `a1=61` | U+00A1 is sent to U+0061 |
| `a1-bf=61` | U+00A1 + k is sent to U+0061 + k |
| `a1/bf=61` | the same for even k, odd k is not in the map |
| `a1=61,62` | U+00A1 is sent to the sequence U+0061 U+0062 |

Entries are disjoint and increase, so that a look-up halves the table.
-/

namespace WorkflowKit
namespace Text

/-- The value of a lower-case hexadecimal digit; any other character counts as 0. -/
def hexDigitValue (c : Char) : Nat :=
  if '0' ≤ c ∧ c ≤ '9' then c.toNat - '0'.toNat
  else if 'a' ≤ c ∧ c ≤ 'f' then c.toNat - 'a'.toNat + 10
  else 0

/-- The number a list of hexadecimal digits writes. -/
def hexNumber (cs : List Char) : Nat :=
  cs.foldl (fun n c => 16 * n + hexDigitValue c) 0

/-- The pieces of a list between the elements that satisfy `p`; adjacent separators leave an empty
piece. -/
def pieces {α : Type} (p : α → Bool) : List α → List (List α)
  | [] => [[]]
  | c :: cs =>
    if p c then [] :: pieces p cs
    else match pieces p cs with
      | [] => [[c]]
      | w :: ws => (c :: w) :: ws

/-- The pieces between blanks and line ends, without the empty ones. -/
def entries (s : String) : List (List Char) :=
  (pieces (fun c => c = ' ' ∨ c = '\n') s.toList).filter (fun w => !w.isEmpty)

/-- How many leading elements of `a` between `lo` and `hi` satisfy `p`, if those that do come
first.  `fuel` bounds the number of halvings. -/
def countLeading {α : Type} (a : Array α) (p : α → Bool) : Nat → Nat → Nat → Nat
  | 0, lo, _ => lo
  | fuel + 1, lo, hi =>
    if lo < hi then
      let mid := (lo + hi) / 2
      match a[mid]? with
      | some x => if p x then countLeading a p fuel (mid + 1) hi else countLeading a p fuel lo mid
      | none => lo
    else lo

/-- The last element of `a` that satisfies `p`, if those that do come first. -/
def lastWith {α : Type} (a : Array α) (p : α → Bool) : Option α :=
  match countLeading a p a.size 0 a.size with
  | 0 => none
  | n + 1 => a[n]?

/-- A set of code points as disjoint increasing ranges. -/
structure CodeSet where
  /-- First and last code point of each range. -/
  ranges : Array (Nat × Nat)

namespace CodeSet

/-- The set written by a text of entries `a1` and `a1-bf`. -/
def ofText (s : String) : CodeSet :=
  ⟨((entries s).map fun w =>
    match pieces (· = '-') w with
    | [lo] => (hexNumber lo, hexNumber lo)
    | lo :: hi :: _ => (hexNumber lo, hexNumber hi)
    | [] => (0, 0)).toArray⟩

/-- Whether the set holds a code point. -/
def contains (t : CodeSet) (n : Nat) : Bool :=
  match lastWith t.ranges (fun r => decide (r.1 ≤ n)) with
  | some r => decide (n ≤ r.2)
  | none => false

end CodeSet

/-- One entry of a map: the code points `lo`, `lo + step`, … up to `hi`, and the image of `lo`. -/
structure CodeRun where
  /-- First code point of the run. -/
  lo : Nat
  /-- Last code point of the run. -/
  hi : Nat
  /-- Distance between neighbours of the run, 1 or 2. -/
  step : Nat
  /-- The image of the first code point. -/
  image : List Nat

/-- A map from code points to sequences of code points. -/
structure CodeMap where
  /-- The entries, increasing. -/
  runs : Array CodeRun

namespace CodeMap

/-- The entry written by `a1=61`, `a1-bf=61`, `a1/bf=61` or `a1=61,62`. -/
def runOfText (w : List Char) : CodeRun :=
  match pieces (· = '=') w with
  | source :: target :: _ =>
    let image := (pieces (· = ',') target).map hexNumber
    match pieces (· = '-') source, pieces (· = '/') source with
    | lo :: hi :: _, _ => ⟨hexNumber lo, hexNumber hi, 1, image⟩
    | _, lo :: hi :: _ => ⟨hexNumber lo, hexNumber hi, 2, image⟩
    | _, _ => ⟨hexNumber source, hexNumber source, 1, image⟩
  | _ => ⟨0, 0, 1, [0]⟩

/-- The map written by a text of entries. -/
def ofText (s : String) : CodeMap :=
  ⟨((entries s).map runOfText).toArray⟩

/-- The image of a code point, if the map has one. -/
def find? (t : CodeMap) (n : Nat) : Option (List Nat) :=
  match lastWith t.runs (fun r => decide (r.lo ≤ n)) with
  | some r =>
    if n ≤ r.hi ∧ (n - r.lo) % r.step = 0 then
      match r.image with
      | [m] => some [m + (n - r.lo)]
      | ms => some ms
    else none
  | none => none

/-- The number that an entry attaches to all of its code points alike. -/
def label? (t : CodeMap) (n : Nat) : Option Nat :=
  match lastWith t.runs (fun r => decide (r.lo ≤ n)) with
  | some r => if n ≤ r.hi then r.image.head? else none
  | none => none

end CodeMap

end Text
end WorkflowKit
