import SensorGateway.Yaml.Character
import SensorGateway.Yaml.Token

/-!
The texts of scalars.

A scalar is plain, quoted or a block. What they share is the folding of lines: a single line break
between two parts becomes a space, and of several the first is dropped. Each reader starts at the
first character of the scalar and answers with its text and the place behind it. The loops end
because every round goes over a character; `fuel` is the number of characters left.
-/

set_option autoImplicit false

namespace SensorGateway.Yaml

/-! ## Folding -/

/-- The white space between two parts of a scalar. -/
structure Gap where
  /-- Blanks of a gap that has no line break. -/
  blanks : List Char := []
  /-- The first line break. -/
  first : List Char := []
  /-- The other line breaks. -/
  others : List Char := []
  /-- Whether the gap has a line break. -/
  broken : Bool := false

/-- **What a gap stands for.** -/
def Gap.text (g : Gap) : List Char :=
  if g.broken then
    if g.first == ['\n'] then (if g.others.isEmpty then [' '] else g.others)
    else g.first ++ g.others
  else g.blanks

/-- Reads a gap. `limit` is the column that a tab may not stand in front of once a line was broken. -/
def readGap (limit : Option Nat) : (fuel : Nat) → Gap → Cursor → Except Flaw (Gap × Cursor)
  | 0, g, c => .ok (g, c)
  | fuel + 1, g, c =>
    match c.peek? with
    | none => .ok (g, c)
    | some x =>
      if isSpaceOrTab x then
        if g.broken then
          if x == '\t' && limit.any (c.column < ·) then .error .tabInIndentation
          else readGap limit fuel g c.skip
        else readGap limit fuel { g with blanks := g.blanks ++ [x] } c.skip
      else if isBreak x then
        let b := c.breakText
        let g := if g.broken then { g with others := g.others ++ b }
          else { g with blanks := [], first := b, broken := true }
        readGap limit fuel g c.skipLine
      else .ok (g, c)

/-! ## Plain scalars -/

/-- Where a plain scalar is read. -/
structure PlainSetting where
  /-- Whether brackets or braces are open. -/
  flow : Bool
  /-- The column that a further line has to reach. -/
  indent : Nat

/-- The characters that end a plain scalar between brackets. -/
def isFlowIndicator (x : Char) : Bool :=
  x == ',' || x == '[' || x == ']' || x == '\x7b' || x == '\x7d'

/-- The run of characters of a plain scalar that starts here. -/
def readPlainRun (flow : Bool) : List Char → Except Flaw (List Char)
  | [] => .ok []
  | x :: xs =>
    if isSpaceOrTab x || isBreak x then .ok []
    else if flow && x == ':' && (xs.head?.any fun y => isFlowIndicator y || y == '?') then
      .error .flowColon
    else if x == ':' && atBlankOrEnd xs then .ok []
    else if flow && isFlowIndicator x then .ok []
    else (readPlainRun flow xs).map (x :: ·)

/-- A plain scalar that has been read: its text, the place behind it, and whether the last gap had a
line break. -/
structure PlainResult where
  text : List Char
  cursor : Cursor
  broken : Bool

/-- Reads on, where `gap` is the white space just passed. -/
def readPlain (s : PlainSetting) :
    (fuel : Nat) → (text : List Char) → Gap → Cursor → Except Flaw PlainResult
  | 0, text, g, c => .ok ⟨text, c, g.broken⟩
  | fuel + 1, text, g, c =>
    if c.atDocumentMark || c.at? '#' then .ok ⟨text, c, g.broken⟩
    else
      match readPlainRun s.flow c.rest with
      | .error e => .error e
      | .ok run =>
        let c := Cursor.skips run.length c
        -- A gap belongs to the text only if something follows it.
        let (text, g) := if run.isEmpty then (text, g) else (text ++ g.text ++ run, ({} : Gap))
        if !atBlankOrBreak c.rest then .ok ⟨text, c, g.broken⟩
        else
          match readGap (some s.indent) c.rest.length g c with
          | .error e => .error e
          | .ok (g, c) =>
            if !s.flow && c.column < s.indent then .ok ⟨text, c, g.broken⟩
            else readPlain s fuel text g c

/-! ## Quoted scalars -/

/-- The value of a hexadecimal digit. -/
def hexValue? (c : Char) : Option Nat :=
  if '0' ≤ c && c ≤ '9' then some (c.toNat - 48)
  else if 'a' ≤ c && c ≤ 'f' then some (c.toNat - 87)
  else if 'A' ≤ c && c ≤ 'F' then some (c.toNat - 55)
  else none

/-- Escapes of one letter. -/
def simpleEscape? : Char → Option Char
  | '0' => some '\x00'
  | 'a' => some '\x07'
  | 'b' => some '\x08'
  | 't' => some '\t'
  | '\t' => some '\t'
  | 'n' => some '\n'
  | 'v' => some '\x0b'
  | 'f' => some '\x0c'
  | 'r' => some '\r'
  | 'e' => some '\x1b'
  | ' ' => some ' '
  | '"' => some '"'
  | '/' => some '/'
  | '\\' => some '\\'
  | 'N' => some '\u0085'
  | '_' => some '\u00a0'
  | 'L' => some '\u2028'
  | 'P' => some '\u2029'
  | _ => none

/-- How many hexadecimal digits follow a letter. -/
def hexEscapeLength? : Char → Option Nat
  | 'x' => some 2
  | 'u' => some 4
  | 'U' => some 8
  | _ => none

/-- The character of a list of hexadecimal digits. -/
def hexCharacter? (ds : List Char) : Option Char :=
  match ds.mapM hexValue? with
  | none => none
  | some vs =>
    let n := vs.foldl (fun n d => n * 16 + d) 0
    if n.isValidChar then some (Char.ofNat n) else none

/-- The character of an escape, and how many characters it takes. -/
def readEscape (cs : List Char) : Except Flaw (Char × Nat) :=
  match cs with
  | [] => .error .badEscape
  | x :: xs =>
    match simpleEscape? x with
    | some c => .ok (c, 2)
    | none =>
      match hexEscapeLength? x with
      | none => .error .badEscape
      | some n =>
        if xs.length < n then .error .badEscape
        else match hexCharacter? (xs.take n) with
          | some c => .ok (c, 2 + n)
          | none => .error .badEscape

/-- What ended a run of characters of a quoted scalar. -/
inductive RunEnd where
  | other
  | escapedBreak
deriving DecidableEq

/-- The quote of a style. -/
def quoteOf (single : Bool) : Char := if single then '\'' else '"'

/-- Reads characters up to white space, the closing quote or an escaped line break. -/
def readQuotedRun (single : Bool) :
    (fuel : Nat) → List Char → Cursor → Except Flaw (List Char × RunEnd × Cursor)
  | 0, text, c => .ok (text, .other, c)
  | fuel + 1, text, c =>
    match c.rest with
    | [] => .ok (text, .other, c)
    | x :: xs =>
      if isSpaceOrTab x || isBreak x then .ok (text, .other, c)
      else if single && x == '\'' && xs.head? == some '\'' then
        readQuotedRun single fuel (text ++ ['\'']) (Cursor.skips 2 c)
      else if x == quoteOf single then .ok (text, .other, c)
      else if !single && x == '\\' then
        if (xs.head?.any isBreak) then .ok (text, .escapedBreak, c.skip.skipLine)
        else
          match readEscape xs with
          | .error e => .error e
          | .ok (ch, n) => readQuotedRun single fuel (text ++ [ch]) (Cursor.skips n c)
      else readQuotedRun single fuel (text ++ [x]) c.skip

/-- Reads on behind the opening quote. -/
def readQuoted (single : Bool) :
    (fuel : Nat) → (text : List Char) → Cursor → Except Flaw (List Char × Cursor)
  | 0, _, _ => .error .unclosedQuotes
  | fuel + 1, text, c =>
    if c.atDocumentMark then .error .documentMarkInQuotes
    else if c.rest.isEmpty then .error .unclosedQuotes
    else
      match readQuotedRun single c.rest.length text c with
      | .error e => .error e
      | .ok (text, runEnd, c) =>
        if c.at? (quoteOf single) then .ok (text, c.skip)
        else
          let gap : Gap := { broken := runEnd = .escapedBreak }
          match readGap none c.rest.length gap c with
          | .error e => .error e
          | .ok (g, c) => readQuoted single fuel (text ++ g.text) c

/-! ## Block scalars -/

/-- What to do with the line breaks at the end of a block. -/
inductive Chomping where
  | strip
  | clip
  | keep
deriving DecidableEq

/-- The header of a block: its chomping and its extra indentation. -/
def readBlockHeader (c : Cursor) : Except Flaw (Chomping × Nat × Cursor) :=
  let sign? : Option Char → Option Chomping
    | some '+' => some .keep
    | some '-' => some .strip
    | _ => none
  let digit? (x : Option Char) : Option Nat :=
    x.bind fun x => if x.isDigit then some (x.toNat - 48) else none
  match sign? c.peek? with
  | some chomping =>
    let c := c.skip
    match digit? c.peek? with
    | some 0 => .error .badBlockHeader
    | some n => .ok (chomping, n, c.skip)
    | none => .ok (chomping, 0, c)
  | none =>
    match digit? c.peek? with
    | some 0 => .error .badBlockHeader
    | some n =>
      let c := c.skip
      match sign? c.peek? with
      | some chomping => .ok (chomping, n, c.skip)
      | none => .ok (.clip, n, c)
    | none => .ok (.clip, 0, c)

/-- Goes over spaces up to a column, or over all of them if the column is 0. -/
def skipIndentation (indent : Nat) (c : Cursor) : Cursor :=
  let spaces := (c.rest.takeWhile (· == ' ')).length
  Cursor.skips (if indent = 0 then spaces else min spaces (indent - c.column)) c

/-- Reads empty lines. Answers with their breaks, the deepest column met, and the place. -/
def readEmptyLines (indent : Nat) :
    (fuel : Nat) → (breaks : List Char) → (deepest : Nat) → Cursor →
      Except Flaw (List Char × Nat × Cursor)
  | 0, breaks, deepest, c => .ok (breaks, deepest, c)
  | fuel + 1, breaks, deepest, c =>
    let c := skipIndentation indent c
    let deepest := max deepest c.column
    if (indent = 0 || c.column < indent) && c.at? '\t' then .error .tabInIndentation
    else if c.rest.head?.any isBreak then
      readEmptyLines indent fuel (breaks ++ c.breakText) deepest c.skipLine
    else .ok (breaks, deepest, c)

/-- `readEmptyLines`, and the indentation of the block, which the first line settles if the header
does not. -/
def readBlockBreaks (parent : Int) (indent : Nat) (c : Cursor) :
    Except Flaw (List Char × Nat × Cursor) :=
  match readEmptyLines indent (c.rest.length + 1) [] 0 c with
  | .error e => .error e
  | .ok (breaks, deepest, c) =>
    let settled := if indent = 0 then max (max deepest (parent + 1).toNat) 1 else indent
    .ok (breaks, settled, c)

/-- The lines of a block read so far. -/
structure BlockState where
  text : List Char := []
  /-- The break behind the last line. -/
  lineBreak : List Char := []
  /-- The breaks of the empty lines behind that. -/
  emptyBreaks : List Char
  /-- Whether the last line started with a blank. -/
  blankLine : Bool := false
  cursor : Cursor

/-- Reads the lines of a block of the given indentation. -/
def readBlockLines (literal : Bool) (parent : Int) (indent : Nat) :
    (fuel : Nat) → BlockState → Except Flaw BlockState
  | 0, s => .ok s
  | fuel + 1, s =>
    let c := s.cursor
    if c.column ≠ indent || c.rest.isEmpty then .ok s
    else
      let blank := c.rest.head?.any isSpaceOrTab
      let fold := !literal && s.lineBreak == ['\n'] && !s.blankLine && !blank
      let joint := if fold then (if s.emptyBreaks.isEmpty then [' '] else []) else s.lineBreak
      let (line, c) := c.takeWhile (!isBreak ·)
      let lineBreak := c.breakText
      match readBlockBreaks parent indent c.skipLine with
      | .error e => .error e
      | .ok (breaks, _, c) =>
        readBlockLines literal parent indent fuel
          ⟨s.text ++ joint ++ s.emptyBreaks ++ line, lineBreak, breaks, blank, c⟩

/-- **Reads a block scalar** behind its indicator, inside a block of the indentation `parent`. -/
def readBlock (literal : Bool) (parent : Int) (c : Cursor) : Except Flaw (List Char × Cursor) :=
  match readBlockHeader c with
  | .error e => .error e
  | .ok (chomping, extra, c) =>
    let c := c.skipBlanks.skipComment
    if !atBreakOrEnd c.rest then .error .badBlockHeader
    else
      let indent := if extra = 0 then 0 else (if 0 ≤ parent then parent.toNat + extra else extra)
      match readBlockBreaks parent indent c.skipLine with
      | .error e => .error e
      | .ok (breaks, indent, c) =>
        match readBlockLines literal parent indent (c.rest.length + 1) { emptyBreaks := breaks, cursor := c } with
        | .error e => .error e
        | .ok s =>
          let tail := match chomping with
            | .strip => []
            | .clip => s.lineBreak
            | .keep => s.lineBreak ++ s.emptyBreaks
          .ok (s.text ++ tail, s.cursor)

end SensorGateway.Yaml
