/-
# Texts

A text is a sequence of code points.  Beside characters these are the 2048 halves of the pairs by
which some encodings write a character above U+FFFF.  A half is no character, but escapes can write
one without the other, and a text keeps what they write: two halves side by side are not the
character that they would be in such an encoding.

Texts with halves cannot be stored: `toString?` refuses them, and `lossy` puts replacement
characters in their place, three for each half.
-/

namespace WorkflowKit

/-- A code point. -/
inductive CodePoint
  /-- A character. -/
  | char (c : Char)
  /-- The half U+D800 + n of a pair. -/
  | half (n : Fin 0x800)
  deriving DecidableEq, Repr, Inhabited

namespace CodePoint

/-- The number of a code point. -/
def number : CodePoint → Nat
  | char c => c.toNat
  | half n => 0xd800 + n.val

/-- The code point of a number; numbers above U+10FFFF have none, and count as U+0000. -/
def ofNumber (n : Nat) : CodePoint :=
  if h : 0xd800 ≤ n ∧ n < 0xe000 then half ⟨n - 0xd800, by omega⟩ else char (Char.ofNat n)

/-- The character of a code point. -/
def char? : CodePoint → Option Char
  | char c => some c
  | half _ => none

/-- Whether a code point is a character with a property. -/
def isCharWith (p : Char → Bool) : CodePoint → Bool
  | char c => p c
  | half _ => false

/-- A code point as a character: a replacement character in the place of a half.  It is the same
as the half for whoever looks for other characters. -/
def toChar : CodePoint → Char
  | char c => c
  | half _ => '\ufffd'

end CodePoint

/-- A text. -/
structure Text where
  /-- The code points. -/
  points : List CodePoint
  deriving DecidableEq, Repr, Inhabited

namespace Text

/-- The text of some characters. -/
def ofChars (cs : List Char) : Text := ⟨cs.map .char⟩

/-- The text of a string. -/
def ofString (s : String) : Text := ofChars s.toList

instance : Coe String Text := ⟨ofString⟩

instance : Append Text := ⟨fun s t => ⟨s.points ++ t.points⟩⟩

/-- The number of code points. -/
def length (t : Text) : Nat := t.points.length

/-- Whether a text holds nothing. -/
def isEmpty (t : Text) : Bool := t.points.isEmpty

/-- Whether a text holds a half of a pair. -/
def holdsHalf (t : Text) : Bool := t.points.any fun p => p.char?.isNone

/-- The code points of a text as characters. -/
def chars (t : Text) : List Char := t.points.map CodePoint.toChar

/-- The characters of a text without halves. -/
def chars? (t : Text) : Option (List Char) := t.points.mapM CodePoint.char?

/-- A text without halves as a string. -/
def toString? (t : Text) : Option String := String.ofList <$> t.chars?

/-- A text as a string, with three replacement characters in the place of each half. -/
def lossy (t : Text) : String :=
  String.ofList (t.points.flatMap fun
    | .char c => [c]
    | .half _ => ['\ufffd', '\ufffd', '\ufffd'])

/-- The texts of a list, one after the other. -/
def concat (ts : List Text) : Text := ⟨ts.flatMap points⟩

/-- The characters at the start of a list of code points, and what follows them. -/
def leadingChars : List CodePoint → List Char × List CodePoint
  | .char c :: ps => (c :: (leadingChars ps).1, (leadingChars ps).2)
  | ps => ([], ps)

theorem length_leadingChars_snd (ps : List CodePoint) :
    (leadingChars ps).2.length ≤ ps.length := by
  induction ps with
  | nil => simp [leadingChars]
  | cons p ps ih => cases p <;> simp [leadingChars]; omega

/-- Code points with all characters between two halves changed together. -/
def mapCharsFrom (f : List Char → List Char) : List CodePoint → List CodePoint
  | [] => []
  | .half n :: ps => .half n :: mapCharsFrom f ps
  | .char c :: ps =>
    (f (c :: (leadingChars ps).1)).map .char ++ mapCharsFrom f (leadingChars ps).2
termination_by ps => ps.length
decreasing_by
  · simp
  · have := length_leadingChars_snd ps
    simp only [List.length_cons]; omega

/-- A text with all characters between two halves changed together. -/
def mapChars (f : List Char → List Char) (t : Text) : Text := ⟨mapCharsFrom f t.points⟩

end Text
end WorkflowKit
