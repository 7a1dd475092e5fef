/-
# Decimal digits

The decimal digits of every script, and the ASCII text that numbers are read from: digits of any
script become ASCII digits, and White_Space becomes a blank.
-/

import WorkflowKit.Text.Blank
import WorkflowKit.Text.CodeSet

namespace WorkflowKit
namespace Text

/-- The ASCII digits of the decimal digits above ASCII. -/
def digitCodes : CodeMap := CodeMap.ofText "
660-669=30 6f0-6f9=30 7c0-7c9=30 966-96f=30 9e6-9ef=30 a66-a6f=30 ae6-aef=30 b66-b6f=30
be6-bef=30 c66-c6f=30 ce6-cef=30 d66-d6f=30 de6-def=30 e50-e59=30 ed0-ed9=30 f20-f29=30
1040-1049=30 1090-1099=30 17e0-17e9=30 1810-1819=30 1946-194f=30 19d0-19d9=30 1a80-1a89=30
1a90-1a99=30 1b50-1b59=30 1bb0-1bb9=30 1c40-1c49=30 1c50-1c59=30 a620-a629=30 a8d0-a8d9=30
a900-a909=30 a9d0-a9d9=30 a9f0-a9f9=30 aa50-aa59=30 abf0-abf9=30 ff10-ff19=30 104a0-104a9=30
10d30-10d39=30 11066-1106f=30 110f0-110f9=30 11136-1113f=30 111d0-111d9=30 112f0-112f9=30
11450-11459=30 114d0-114d9=30 11650-11659=30 116c0-116c9=30 11730-11739=30 118e0-118e9=30
11950-11959=30 11c50-11c59=30 11d50-11d59=30 11da0-11da9=30 16a60-16a69=30 16ac0-16ac9=30
16b50-16b59=30 1d7ce-1d7d7=30 1d7d8-1d7e1=30 1d7e2-1d7eb=30 1d7ec-1d7f5=30 1d7f6-1d7ff=30
1e140-1e149=30 1e2f0-1e2f9=30 1e950-1e959=30 1fbf0-1fbf9=30"

/-- A character as it counts in a number. -/
def numeralChar (c : Char) : Char :=
  if c.toNat < 0x80 then c
  else if isSpace c then ' '
  else match digitCodes.find? c.toNat with
    | some [n] => Char.ofNat n
    | _ => c

/-- The ASCII characters that surround a number without counting. -/
def isNumeralGap (c : Char) : Bool := c == ' ' || (9 ≤ c.toNat && c.toNat ≤ 13)

/-- A text as it is read as a number: ASCII digits, without surrounding blanks. -/
def numeral (cs : List Char) : List Char :=
  trim isNumeralGap (cs.map numeralChar)

end Text
end WorkflowKit
