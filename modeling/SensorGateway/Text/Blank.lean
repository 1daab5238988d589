/-!
White space and words.

A blank is a character with the Unicode property `White_Space`. The property is wider than the
ASCII blanks and narrower than "invisible": the byte order mark `U+FEFF`, the zero width space
`U+200B` and the separators `U+001C` to `U+001F` are no blanks. Everything an operator or an
environment variable writes around a value is cut by this one class.
-/

set_option autoImplicit false

namespace SensorGateway.Text

/-! ## The class -/

/-- **A blank has the property `White_Space`.** The list is the whole property. -/
def isBlank (c : Char) : Bool :=
  let n := c.toNat
  (0x09 ≤ n && n ≤ 0x0D) || n == 0x20 || n == 0x85 || n == 0xA0 || n == 0x1680
    || (0x2000 ≤ n && n ≤ 0x200A) || n == 0x2028 || n == 0x2029 || n == 0x202F
    || n == 0x205F || n == 0x3000

/-! ## Cutting blanks -/

/-- The characters without the blanks in front of them. -/
def dropBlanks (cs : List Char) : List Char := cs.dropWhile isBlank

/-- **Trimming cuts the blanks at both ends** and keeps those inside. -/
def trimChars (cs : List Char) : List Char := (dropBlanks (dropBlanks cs).reverse).reverse

/-- `trimChars` on strings. -/
def trim (s : String) : String := String.ofList (trimChars s.toList)

/-- A word gathered so far, in reverse, joins the words behind it unless it is empty. -/
def closeWord (word : List Char) (rest : List (List Char)) : List (List Char) :=
  if word.isEmpty then rest else word.reverse :: rest

/-- The words of `cs`, where `word` is the reversed beginning of the first one. -/
def wordsFrom (word : List Char) : List Char → List (List Char)
  | [] => closeWord word []
  | c :: cs => if isBlank c then closeWord word (wordsFrom [] cs) else wordsFrom (c :: word) cs

/-- **The words of a line are its longest runs of characters that are not blank.** -/
def words (s : String) : List String := (wordsFrom [] s.toList).map String.ofList

end SensorGateway.Text
