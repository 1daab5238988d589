import SensorGateway.Text.Number

/-!
Quoted text in messages.

A quoted text stands between double quotes. Quotes and backslashes carry a backslash, the usual
control characters have letters, and other characters that cannot be seen, or that would combine
with the character in front of them, are written by number.
-/

set_option autoImplicit false

namespace SensorGateway.Text

/-- Ranges of characters that are written by number: controls, formats, blanks other than the space,
combining marks, and private ones. -/
def hiddenRanges : List (Nat × Nat) := [
  (0x00, 0x1F), (0x7F, 0xA0), (0xAD, 0xAD), (0x300, 0x36F), (0x483, 0x489), (0x591, 0x5BD),
  (0x600, 0x605), (0x610, 0x61A), (0x61C, 0x61C), (0x64B, 0x65F), (0x6DD, 0x6DD), (0x70F, 0x70F),
  (0x1680, 0x1680), (0x180B, 0x180F), (0x1AB0, 0x1AFF), (0x1DC0, 0x1DFF), (0x2000, 0x200F),
  (0x2028, 0x202F), (0x205F, 0x206F), (0x20D0, 0x20F0), (0x3000, 0x3000), (0x302A, 0x302F),
  (0x3099, 0x309A), (0xE000, 0xF8FF), (0xFE00, 0xFE0F), (0xFE20, 0xFE2F), (0xFEFF, 0xFEFF),
  (0xFFF0, 0xFFFB), (0xFFFE, 0xFFFF), (0x1F3FB, 0x1F3FF), (0xE0000, 0x10FFFF)]

/-- Whether a character is written by number. -/
def isHidden (c : Char) : Bool := hiddenRanges.any fun r => r.1 ≤ c.toNat && c.toNat ≤ r.2

/-- **A character inside quotes.** -/
def escaped (c : Char) : String :=
  if c = '"' then "\\\""
  else if c = '\\' then "\\\\"
  else if c = '\x00' then "\\0"
  else if c = '\t' then "\\t"
  else if c = '\n' then "\\n"
  else if c = '\r' then "\\r"
  else if isHidden c then "\\u\x7b" ++ String.ofList (digitChars 16 c.toNat) ++ "\x7d"
  else String.singleton c

/-- **The quoted form of a text.** -/
def quoted (s : String) : String := "\"" ++ String.join (s.toList.map escaped) ++ "\""

end SensorGateway.Text
