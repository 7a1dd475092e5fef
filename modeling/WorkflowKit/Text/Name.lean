/-
# Names of characters

Characters have names in the Unicode standard (version 14.0), written with capital letters, digits,
blanks and hyphens.  The names of Korean syllables are spelled from those of their letters, and
those of most ideographs from their code points; all other names are listed in tables.

A table is one text, which names the characters in the order of their code points.  Each name stands
behind small letters: these count the characters that it takes over from the start of the name
before it, `a` none, `b` one, up to `z`, and several letters count together.  A hexadecimal number
in angle brackets in front of them is the code point of the name; without it, the code point
follows that of the name before.  Line ends count for nothing.

Names are found in any case, but for those of syllables and ideographs.
-/

import WorkflowKit.Text.CodeSet
import WorkflowKit.Text.Name.Alias
import WorkflowKit.Text.Name.From0000
import WorkflowKit.Text.Name.From0800
import WorkflowKit.Text.Name.From1800
import WorkflowKit.Text.Name.From2000
import WorkflowKit.Text.Name.From2800
import WorkflowKit.Text.Name.From3000
import WorkflowKit.Text.Name.FromF000
import WorkflowKit.Text.Name.From10000
import WorkflowKit.Text.Name.From12000
import WorkflowKit.Text.Name.From1D000
import WorkflowKit.Text.Name.From1F000

namespace WorkflowKit
namespace Text
namespace Name

/-- The tables of names. -/
def tables : List String :=
  [namesFrom0000, namesFrom0800, namesFrom1800, namesFrom2000, namesFrom2800, namesFrom3000,
    namesFromF000, namesFrom10000, namesFrom12000, namesFrom1D000, namesFrom1F000, aliases]

/-! ## Tables -/

/-- A place in a table. -/
structure Scan where
  /-- The name before the place, to which the next one refers. -/
  before : List Char
  /-- The code point of the name at the place. -/
  code : Nat
  /-- Whether the place is inside of angle brackets. -/
  inNumber : Bool
  /-- How many characters the name takes over. -/
  shared : Nat
  /-- The characters of its own so far, the last one first. -/
  own : List Char
  /-- The code point of the name that is looked for, once it is found. -/
  found : Option Nat

/-- The start of a table. -/
def Scan.start : Scan := ⟨[], 0, false, 0, [], none⟩

/-- Ends the name at a place, if there is one. -/
def Scan.endName (wanted : List Char) (s : Scan) : Scan :=
  if s.own.isEmpty then s
  else
    let name := s.before.take s.shared ++ s.own.reverse
    { s with
      before := name, code := s.code + 1, shared := 0, own := []
      found := if s.found.isNone && name == wanted then some s.code else s.found }

/-- Moves past a character of a table. -/
def Scan.step (wanted : List Char) (s : Scan) (c : Char) : Scan :=
  if c = '\n' then s
  else if c = '<' then { s.endName wanted with code := 0, inNumber := true }
  else if c = '>' then { s with inNumber := false }
  else if s.inNumber then { s with code := 16 * s.code + hexDigitValue c.toLower }
  else if c.isLower then
    let s := s.endName wanted
    { s with shared := s.shared + (c.toNat - 'a'.toNat) }
  else { s with own := c :: s.own }

/-- The code point that a table gives for a name in capital letters. -/
def listed? (wanted : List Char) (table : String) : Option Nat :=
  ((table.toList.foldl (Scan.step wanted) Scan.start).endName wanted).found

/-! ## Korean syllables -/

/-- The names of the letters that begin a syllable. -/
def syllableOnsets : List String :=
  ["G", "GG", "N", "D", "DD", "R", "M", "B", "BB", "S", "SS", "", "J", "JJ", "C", "K", "T", "P",
    "H"]

/-- The names of the vowels of a syllable. -/
def syllableVowels : List String :=
  ["A", "AE", "YA", "YAE", "EO", "E", "YEO", "YE", "O", "WA", "WAE", "OE", "YO", "U", "WEO", "WE",
    "WI", "YU", "EU", "YI", "I"]

/-- The names of the letters that end a syllable; the first is for a syllable that ends with its
vowel. -/
def syllableCodas : List String :=
  ["", "G", "GG", "GS", "N", "NJ", "NH", "D", "L", "LG", "LM", "LB", "LS", "LT", "LP", "LH", "M",
    "B", "BS", "S", "SS", "NG", "J", "C", "K", "T", "P", "H"]

/-- The longest of some words at the start of a text: its number, and what follows it. -/
def longestWord? (words : List String) (cs : List Char) : Option (Nat × List Char) :=
  (words.zipIdx.foldl (fun (best : Option (Nat × Nat)) w =>
      let n := w.1.length
      if w.1.toList.isPrefixOf cs && best.all fun b => b.1 < n then some (n, w.2) else best)
    none).map fun b => (b.2, cs.drop b.1)

/-- The code point of the syllable of a spelling. -/
def syllable? (cs : List Char) : Option Nat := do
  let (onset, cs) ← longestWord? syllableOnsets cs
  let (vowel, cs) ← longestWord? syllableVowels cs
  let (coda, cs) ← longestWord? syllableCodas cs
  if cs.isEmpty then some (0xac00 + (onset * 21 + vowel) * 28 + coda) else none

/-! ## Ideographs -/

/-- The code points of the ideographs that are named by their code points. -/
def ideographs : CodeSet := CodeSet.ofText "
3400-4dbf 4e00-9fff 20000-2a6df 2a700-2b738 2b740-2b81d 2b820-2cea1 2ceb0-2ebe0 30000-3134a"

/-- The ideograph with a code point of four or five hexadecimal digits. -/
def ideograph? (cs : List Char) : Option Nat :=
  let n := hexNumber (cs.map Char.toLower)
  if (cs.length = 4 ∨ cs.length = 5) ∧ (cs.all fun c => c.isDigit || ('A' ≤ c && c ≤ 'F')) ∧
      ideographs.contains n then
    some n
  else none

/-! ## All names -/

/-- What the names of syllables begin with. -/
def syllableHead : List Char := "HANGUL SYLLABLE ".toList

/-- What the names of ideographs begin with. -/
def ideographHead : List Char := "CJK UNIFIED IDEOGRAPH-".toList

/-- The code point of a name. -/
def code? (name : List Char) : Option Nat :=
  if syllableHead.isPrefixOf name then syllable? (name.drop syllableHead.length)
  else if ideographHead.isPrefixOf name then ideograph? (name.drop ideographHead.length)
  else
    let wanted := name.map Char.toUpper
    tables.findSome? (listed? wanted)

/-- The character of a name. -/
def char? (name : List Char) : Option Char := Char.ofNat <$> code? name

end Name
end Text
end WorkflowKit
