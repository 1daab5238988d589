/-!
Character classes of the document format, and a cursor that knows its line and column.
-/

set_option autoImplicit false

namespace SensorGateway.Yaml

/-! ## Classes -/

/-- Characters that a document may hold. -/
def isAllowed (c : Char) : Bool :=
  let n := c.toNat
  n == 0x09 || n == 0x0A || n == 0x0D || (0x20 ≤ n && n ≤ 0x7E) || n == 0x85
    || (0xA0 ≤ n && n ≤ 0xD7FF) || (0xE000 ≤ n && n ≤ 0xFFFD) || 0x10000 ≤ n

/-- Line breaks. -/
def isBreak (c : Char) : Bool :=
  c == '\r' || c == '\n' || c == '\u0085' || c == '\u2028' || c == '\u2029'

/-- Space and tab. -/
def isSpaceOrTab (c : Char) : Bool := c == ' ' || c == '\t'

/-- Letters, digits, the low line and the hyphen: what names are made of. -/
def isWord (c : Char) : Bool := c.isAlphanum || c == '_' || c == '-'

/-- Whether the list is at its end, or a line break is next. -/
def atBreakOrEnd : List Char → Bool
  | [] => true
  | c :: _ => isBreak c

/-- Whether the list is at its end, or a blank or a line break is next. -/
def atBlankOrEnd : List Char → Bool
  | [] => true
  | c :: _ => isSpaceOrTab c || isBreak c

/-- Whether a blank or a line break is next. -/
def atBlankOrBreak : List Char → Bool
  | [] => false
  | c :: _ => isSpaceOrTab c || isBreak c

/-! ## Cursor -/

/-- A place in the text and what is left from there. -/
structure Cursor where
  rest : List Char
  index : Nat := 0
  line : Nat := 0
  column : Nat := 0

namespace Cursor

/-- Goes over one character that is no line break. -/
def skip (c : Cursor) : Cursor :=
  match c.rest with
  | [] => c
  | _ :: cs => { c with rest := cs, index := c.index + 1, column := c.column + 1 }

/-- Goes over `n` characters that are no line breaks. -/
def skips : Nat → Cursor → Cursor
  | 0, c => c
  | n + 1, c => skips n c.skip

/-- Goes over a line break, where carriage return and line feed are one. -/
def skipLine (c : Cursor) : Cursor :=
  match c.rest with
  | '\r' :: '\n' :: cs => ⟨cs, c.index + 2, c.line + 1, 0⟩
  | b :: cs => if isBreak b then ⟨cs, c.index + 1, c.line + 1, 0⟩ else c
  | [] => c

/-- The text of the line break at the cursor: a line feed, but the separators of lines and of
paragraphs stay what they are. -/
def breakText (c : Cursor) : List Char :=
  match c.rest with
  | b :: _ => if b == '\u2028' || b == '\u2029' then [b] else if isBreak b then ['\n'] else []
  | [] => []

/-- The next character, if there is one. -/
def peek? (c : Cursor) : Option Char := c.rest.head?

/-- Whether the given character is next. -/
def at? (c : Cursor) (x : Char) : Bool := c.rest.head? == some x

/-- Whether three equal characters at the start of a line mark a document. -/
def atMark (c : Cursor) (x : Char) : Bool :=
  c.column == 0 && c.rest.take 3 == [x, x, x] && atBlankOrEnd (c.rest.drop 3)

/-- Whether the start or the end of a document is marked here. -/
def atDocumentMark (c : Cursor) : Bool := c.atMark '-' || c.atMark '.'

/-- Goes on while a test holds of the next character; none of them may be a line break. Answers with
the characters and the new place. -/
def takeWhile (c : Cursor) (p : Char → Bool) : List Char × Cursor :=
  let taken := c.rest.takeWhile p
  (taken, ⟨c.rest.drop taken.length, c.index + taken.length, c.line, c.column + taken.length⟩)

/-- Goes over spaces and tabs. -/
def skipBlanks (c : Cursor) : Cursor := (c.takeWhile isSpaceOrTab).2

/-- Goes over a comment, if one starts here. -/
def skipComment (c : Cursor) : Cursor :=
  if c.at? '#' then (c.takeWhile (!isBreak ·)).2 else c

end Cursor

end SensorGateway.Yaml
