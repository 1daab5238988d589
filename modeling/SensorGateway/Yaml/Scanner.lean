import SensorGateway.Yaml.Scalar
import SensorGateway.Yaml.Tag

/-!
From characters to tokens.

Blocks are told by their indentation, so the scanner keeps the columns of the open blocks and puts in
tokens where one starts or ends. That a scalar was the key of a mapping is known only when its colon
is met; until then its place among the tokens is kept, one place for each level of brackets, and the
key token is put in there afterwards. A key has to end on its line and within 1024 characters.
-/

set_option autoImplicit false

namespace SensorGateway.Yaml

/-! ## State -/

/-- A place where a key may have started. -/
structure KeyPlace where
  /-- The number of the token that the key token would stand before. -/
  token : Nat
  /-- Whether there has to be a key here. -/
  required : Bool
  index : Nat
  line : Nat
  column : Nat

/-- The state of the scanner. -/
structure Scanner where
  cursor : Cursor
  tokens : Array Token := #[]
  /-- How many brackets and braces are open. -/
  flowLevel : Nat := 0
  /-- The column of the innermost block, -1 outside. -/
  indent : Int := -1
  /-- The columns of the blocks around it. -/
  outer : List Int := []
  /-- Possible keys, the innermost level first. -/
  keys : List (Option KeyPlace) := [none]
  /-- Whether a key may start here. -/
  keyAllowed : Bool := true

namespace Scanner

/-- Whether brackets or braces are open. -/
def inFlow (s : Scanner) : Bool := s.flowLevel ≠ 0

/-- Appends a token. -/
def emit (s : Scanner) (t : Token) : Scanner := { s with tokens := s.tokens.push t }

/-- Moves on. -/
def goto (s : Scanner) (c : Cursor) : Scanner := { s with cursor := c }

/-- Goes over `n` characters and appends a token for them. -/
def emitSkipping (s : Scanner) (n : Nat) (t : Token) : Scanner :=
  (s.emit t).goto (Cursor.skips n s.cursor)

/-- Puts in a token in front of an earlier one. -/
def insertAt (s : Scanner) (i : Nat) (t : Token) : Scanner :=
  { s with tokens := s.tokens.insertIdxIfInBounds i t }

/-- Sets whether a key may start. -/
def allowKey (s : Scanner) (b : Bool) : Scanner := { s with keyAllowed := b }

/-! ## Blocks -/

/-- **Opens a block at a column** if it is deeper than the innermost one; its token goes to a given
place or to the end. -/
def openBlock (s : Scanner) (column : Nat) (place : Option Nat) (t : Token) : Scanner :=
  if s.inFlow || (column : Int) ≤ s.indent then s
  else
    let s := { s with outer := s.indent :: s.outer, indent := column }
    match place with
    | some i => s.insertAt i t
    | none => s.emit t

/-- The columns of the blocks that are left open, and how many are closed, when the text goes on at a
column. -/
def closed (column indent : Int) : List Int → Nat × Int × List Int
  | [] => (0, indent, [])
  | o :: os =>
    if indent ≤ column then (0, indent, o :: os)
    else
      let (n, i, left) := closed column o os
      (n + 1, i, left)

/-- **Closes the blocks that are deeper than a column.** -/
def closeBlocks (s : Scanner) (column : Int) : Scanner :=
  if s.inFlow then s
  else
    let (n, indent, outer) := closed column s.indent s.outer
    { s with
      tokens := s.tokens ++ Array.replicate n Token.blockEnd, indent := indent, outer := outer }

/-! ## Keys -/

/-- Whether a possible key has become impossible here. -/
def KeyPlace.stale (k : KeyPlace) (c : Cursor) : Bool :=
  decide (k.line < c.line) || decide (k.index + 1024 < c.index)

/-- Drops the possible keys that have become impossible. -/
def dropStaleKeys (s : Scanner) : Except Flaw Scanner :=
  let stale (k : KeyPlace) : Bool := KeyPlace.stale k s.cursor
  if s.keys.any fun k => k.any fun k => k.required && stale k then .error .keyWithoutValue
  else .ok { s with keys := s.keys.map fun k => k.filter (!stale ·) }

/-- Drops the possible key of the innermost level. -/
def dropKey (s : Scanner) : Except Flaw Scanner :=
  match s.keys with
  | some k :: rest =>
    if k.required then .error .keyWithoutValue else .ok { s with keys := none :: rest }
  | _ => .ok s

/-- **Notes that a key may start here.** -/
def noteKey (s : Scanner) : Except Flaw Scanner :=
  if !s.keyAllowed then .ok s
  else
    let c := s.cursor
    let required := !s.inFlow && s.indent == (c.column : Int)
    match s.dropKey with
    | .error e => .error e
    | .ok s =>
      .ok { s with keys := some ⟨s.tokens.size, required, c.index, c.line, c.column⟩ :: s.keys.tail }

/-! ## Between tokens -/

/-- Goes over blanks, comments and line breaks. A tab is a blank only where no key may start. -/
def skipToToken (s : Scanner) : (fuel : Nat) → Scanner
  | 0 => s
  | fuel + 1 =>
    let c := if s.cursor.index = 0 && s.cursor.at? '\ufeff' then s.cursor.skip else s.cursor
    let tabs := s.inFlow || !s.keyAllowed
    let c := (c.takeWhile fun x => x == ' ' || (tabs && x == '\t')).2.skipComment
    if c.rest.head?.any isBreak then
      let s := s.goto c.skipLine
      skipToToken (if s.inFlow then s else s.allowKey true) fuel
    else s.goto c

/-! ## Tokens -/

/-- The end of the text: every block ends. -/
def fetchEnd (s : Scanner) : Except Flaw Scanner := do
  let s := s.closeBlocks (-1)
  let s ← s.dropKey
  return (s.allowKey false).emit .streamEnd

/-- A directive. -/
def fetchDirective (s : Scanner) : Except Flaw Scanner := do
  let s ← (s.closeBlocks (-1)).dropKey
  let (t, c) ← readDirective s.cursor
  return ((s.allowKey false).emit t).goto c

/-- The mark of the start or the end of a document. -/
def fetchDocumentMark (s : Scanner) (t : Token) : Except Flaw Scanner := do
  let s ← (s.closeBlocks (-1)).dropKey
  return (s.allowKey false).emitSkipping 3 t

/-- An opening bracket or brace, which may start a key. -/
def fetchFlowOpen (s : Scanner) (t : Token) : Except Flaw Scanner := do
  let s ← s.noteKey
  let s := { s with flowLevel := s.flowLevel + 1, keys := none :: s.keys }
  return (s.allowKey true).emitSkipping 1 t

/-- A closing bracket or brace. -/
def fetchFlowClose (s : Scanner) (t : Token) : Except Flaw Scanner := do
  let s ← s.dropKey
  let s := if s.inFlow then { s with flowLevel := s.flowLevel - 1, keys := s.keys.tail } else s
  return (s.allowKey false).emitSkipping 1 t

/-- A comma between brackets. -/
def fetchFlowEntry (s : Scanner) : Except Flaw Scanner := do
  let s ← s.dropKey
  return (s.allowKey true).emitSkipping 1 .flowEntry

/-- The hyphen of a block entry. -/
def fetchBlockEntry (s : Scanner) : Except Flaw Scanner := do
  if !s.inFlow && !s.keyAllowed then throw .entryNotAllowed
  let s ← (s.openBlock s.cursor.column none .blockSequenceStart).dropKey
  return (s.allowKey true).emitSkipping 1 .blockEntry

/-- The question mark of a key. -/
def fetchKey (s : Scanner) : Except Flaw Scanner := do
  if !s.inFlow && !s.keyAllowed then throw .keyNotAllowed
  let s ← (s.openBlock s.cursor.column none .blockMappingStart).dropKey
  return (s.allowKey (!s.inFlow)).emitSkipping 1 .key

/-- The colon of a value. If a key was possible, it was one. -/
def fetchValue (s : Scanner) : Except Flaw Scanner :=
  match s.keys with
  | some k :: rest =>
    let s := ({ s with keys := none :: rest }.insertAt k.token .key).openBlock k.column
      (some k.token) .blockMappingStart
    .ok ((s.allowKey false).emitSkipping 1 .value)
  | _ =>
    if !s.inFlow && !s.keyAllowed then .error .valueNotAllowed
    else
      let s := s.openBlock s.cursor.column none .blockMappingStart
      .ok ((s.allowKey (!s.inFlow)).emitSkipping 1 .value)

/-- An anchor or an alias. -/
def fetchAnchor (s : Scanner) (make : String → Token) : Except Flaw Scanner := do
  let s ← s.noteKey
  let (name, c) ← readAnchorName s.cursor.skip
  return ((s.allowKey false).emit (make name)).goto c

/-- A tag. -/
def fetchTag (s : Scanner) : Except Flaw Scanner := do
  let s ← s.noteKey
  let (t, c) ← readTag s.inFlow s.cursor
  return ((s.allowKey false).emit t).goto c

/-- A block scalar. -/
def fetchBlockScalar (s : Scanner) (literal : Bool) : Except Flaw Scanner := do
  let s ← s.dropKey
  let (text, c) ← readBlock literal s.indent s.cursor.skip
  let style := if literal then ScalarStyle.literal else .folded
  return ((s.allowKey true).emit (.scalar (String.ofList text) style)).goto c

/-- A quoted scalar. -/
def fetchQuoted (s : Scanner) (single : Bool) : Except Flaw Scanner := do
  let s ← s.noteKey
  let (text, c) ← readQuoted single (s.cursor.rest.length + 1) [] s.cursor.skip
  let style := if single then ScalarStyle.singleQuoted else .doubleQuoted
  return ((s.allowKey false).emit (.scalar (String.ofList text) style)).goto c

/-- A plain scalar. -/
def fetchPlain (s : Scanner) : Except Flaw Scanner := do
  let s ← s.noteKey
  let setting : PlainSetting := ⟨s.inFlow, (s.indent + 1).toNat⟩
  let r ← readPlain setting (s.cursor.rest.length + 1) [] {} s.cursor
  return ((s.allowKey r.broken).emit (.scalar (String.ofList r.text) .plain)).goto r.cursor

/-- The characters that no plain scalar starts with. -/
def isIndicator (c : Char) : Bool :=
  "-?:,[]\x7b\x7d#&*!|>'\"%@".toList.contains c || c.toNat == 0x60

/-- Whether a plain scalar starts with `x` in front of `xs`. -/
def startsPlain (flow : Bool) (x : Char) (xs : List Char) : Bool :=
  !(isIndicator x || isSpaceOrTab x || isBreak x) || (x == '-' && !(xs.head?.any isSpaceOrTab))
    || (!flow && (x == '?' || x == ':') && !atBlankOrEnd xs)

/-- **Makes the next token,** of the kind that its first character tells. -/
def fetch (s : Scanner) (x : Char) (xs : List Char) : Except Flaw Scanner :=
  let c := s.cursor
  let indicator := s.inFlow || atBlankOrEnd xs
  if c.column = 0 && x == '%' then s.fetchDirective
  else if c.atMark '-' then s.fetchDocumentMark .documentStart
  else if c.atMark '.' then s.fetchDocumentMark .documentEnd
  else if x == '[' then s.fetchFlowOpen .flowSequenceStart
  else if x == '\x7b' then s.fetchFlowOpen .flowMappingStart
  else if x == ']' then s.fetchFlowClose .flowSequenceEnd
  else if x == '\x7d' then s.fetchFlowClose .flowMappingEnd
  else if x == ',' then s.fetchFlowEntry
  else if x == '-' && atBlankOrEnd xs then s.fetchBlockEntry
  else if x == '?' && indicator then s.fetchKey
  else if x == ':' && indicator then s.fetchValue
  else if x == '*' then s.fetchAnchor .reference
  else if x == '&' then s.fetchAnchor .anchor
  else if x == '!' then s.fetchTag
  else if x == '|' && !s.inFlow then s.fetchBlockScalar true
  else if x == '>' && !s.inFlow then s.fetchBlockScalar false
  else if x == '\'' then s.fetchQuoted true
  else if x == '"' then s.fetchQuoted false
  else if startsPlain s.inFlow x xs then s.fetchPlain
  else .error .strayCharacter

/-- Makes tokens up to the end of the text. Each round goes over a character. -/
def run : (fuel : Nat) → Scanner → Except Flaw Scanner
  | 0, s => .ok s
  | fuel + 1, s =>
    match (s.skipToToken (s.cursor.rest.length + 1)).dropStaleKeys with
    | .error e => .error e
    | .ok s =>
      let s := s.closeBlocks s.cursor.column
      match s.cursor.rest with
      | [] => s.fetchEnd
      | x :: xs =>
        match s.fetch x xs with
        | .error e => .error e
        | .ok s => run fuel s

end Scanner

/-- **The tokens of a text,** up to the end of the stream. -/
def scan (text : String) : Except Flaw (List Token) :=
  let cs := text.toList
  if !cs.all isAllowed then .error .controlCharacter
  else
    match Scanner.run (cs.length + 1) { cursor := { rest := cs } } with
    | .error e => .error e
    | .ok s => .ok s.tokens.toList

end SensorGateway.Yaml
