import SensorGateway.Yaml.Character
import SensorGateway.Yaml.Token

/-!
Names in a document: anchors, tags and directives.
-/

set_option autoImplicit false

namespace SensorGateway.Yaml

/-! ## Anchors -/

/-- The characters that may follow the name of an anchor or an alias. -/
def mayFollowAnchor (cs : List Char) : Bool :=
  atBlankOrEnd cs || (cs.head?.any fun c => "?:,]\x7d%@".toList.contains c || c.toNat == 0x60)

/-- **Reads the name of an anchor or an alias** behind its indicator. -/
def readAnchorName (c : Cursor) : Except Flaw (String × Cursor) :=
  let (name, c) := c.takeWhile isWord
  if name.isEmpty || !mayFollowAnchor c.rest then .error .badAnchor
  else .ok (String.ofList name, c)

/-! ## Tags -/

/-- The characters of a tag that need no escape. -/
def isTagCharacter (verbatim : Bool) (c : Char) : Bool :=
  isWord c || ";/?:@&=+$.!~*'()".toList.contains c || (verbatim && ",[]".toList.contains c)

/-- One escaped byte. -/
def readEscapedByte : List Char → Option (UInt8 × List Char)
  | '%' :: a :: b :: rest =>
    let digit (c : Char) : Option Nat :=
      if '0' ≤ c && c ≤ '9' then some (c.toNat - 48)
      else if 'a' ≤ c && c ≤ 'f' then some (c.toNat - 87)
      else if 'A' ≤ c && c ≤ 'F' then some (c.toNat - 55)
      else none
    match digit a, digit b with
    | some x, some y => some ((x * 16 + y).toUInt8, rest)
    | _, _ => none
  | _ => none

/-- How many bytes the encoding of a character takes, by its first byte. -/
def utf8Width (b : UInt8) : Nat :=
  let n := b.toNat
  if n < 0x80 then 1 else if n / 32 == 6 then 2 else if n / 16 == 14 then 3
  else if n / 8 == 30 then 4 else 0

/-- Escaped bytes behind the first one of a character. -/
def readContinuation : Nat → List UInt8 → List Char → Option (List UInt8 × List Char)
  | 0, bytes, cs => some (bytes, cs)
  | n + 1, bytes, cs =>
    match readEscapedByte cs with
    | some (b, cs) => if b.toNat / 64 == 2 then readContinuation n (bytes ++ [b]) cs else none
    | none => none

/-- One escaped character, as its bytes. -/
def readEscapedCharacter (cs : List Char) : Option (List UInt8 × List Char) :=
  match readEscapedByte cs with
  | none => none
  | some (b, rest) =>
    if utf8Width b = 0 then none else readContinuation (utf8Width b - 1) [b] rest

/-- Reads the bytes of a tag. -/
def readTagBytes (verbatim : Bool) :
    (fuel : Nat) → List UInt8 → Cursor → Except Flaw (List UInt8 × Cursor)
  | 0, bytes, c => .ok (bytes, c)
  | fuel + 1, bytes, c =>
    match c.rest with
    | [] => .ok (bytes, c)
    | x :: _ =>
      if x == '%' then
        match readEscapedCharacter c.rest with
        | none => .error .badTag
        | some (more, rest) =>
          readTagBytes verbatim fuel (bytes ++ more)
            (Cursor.skips (c.rest.length - rest.length) c)
      else if isTagCharacter verbatim x then
        readTagBytes verbatim fuel (bytes ++ [x.toNat.toUInt8]) c.skip
      else .ok (bytes, c)

/-- Reads the rest of a tag behind `head`, which counts as read if it is not empty. -/
def readTagRest (verbatim : Bool) (head : List Char) (c : Cursor) :
    Except Flaw (String × Cursor) :=
  match readTagBytes verbatim c.rest.length [] c with
  | .error e => .error e
  | .ok (bytes, after) =>
    if head.isEmpty && bytes.isEmpty then .error .badTag
    else match String.fromUTF8? ⟨bytes.toArray⟩ with
      | some s => .ok (String.ofList (head.drop 1) ++ s, after)
      | none => .error .badTag

/-- The handle at the start of a tag: an exclamation mark, word characters, and another mark. -/
def readHandle (c : Cursor) : Except Flaw (List Char × Cursor) :=
  if !c.at? '!' then .error .badTag
  else
    let (word, c) := c.skip.takeWhile isWord
    if c.at? '!' then .ok ('!' :: word ++ ['!'], c.skip) else .ok ('!' :: word, c)

/-- The handle and the suffix of a tag. -/
def readTagParts (c : Cursor) : Except Flaw ((String × String) × Cursor) :=
  if c.rest.take 2 == ['!', '<'] then
    match readTagRest true [] (Cursor.skips 2 c) with
    | .error e => .error e
    | .ok (suffix, c) => if c.at? '>' then .ok (("", suffix), c.skip) else .error .badTag
  else
    match readHandle c with
    | .error e => .error e
    | .ok (handle, c) =>
      if 2 ≤ handle.length && handle.getLast? == some '!' then
        (readTagRest false [] c).map fun (suffix, c) => ((String.ofList handle, suffix), c)
      else
        match readTagRest false handle c with
        | .error e => .error e
        | .ok (suffix, c) =>
          -- The mark alone is a tag of its own and no handle.
          if suffix = "" then .ok (("", "!"), c) else .ok (("!", suffix), c)

/-- **Reads a tag.** A blank has to follow, or a comma between brackets. -/
def readTag (flow : Bool) (c : Cursor) : Except Flaw (Token × Cursor) :=
  match readTagParts c with
  | .error e => .error e
  | .ok ((handle, suffix), c) =>
    if (flow && c.at? ',') || atBlankOrEnd c.rest then .ok (.tag handle suffix, c)
    else .error .badTag

/-! ## Directives -/

/-- Digits of a version: at least one and at most nine. -/
def readVersionNumber (c : Cursor) : Except Flaw (Nat × Cursor) :=
  let (ds, c) := c.takeWhile Char.isDigit
  if ds.isEmpty || 9 < ds.length then .error .badDirective
  else .ok (ds.foldl (fun n d => n * 10 + (d.toNat - 48)) 0, c)

/-- The version that a document is written in. -/
def readVersion (c : Cursor) : Except Flaw (Token × Cursor) :=
  match readVersionNumber c.skipBlanks with
  | .error e => .error e
  | .ok (major, c) =>
    if !c.at? '.' then .error .badDirective
    else
      match readVersionNumber c.skip with
      | .error e => .error e
      | .ok (minor, c) => .ok (.versionDirective major minor, c)

/-- A handle for tags and what it stands for. -/
def readTagDirective (c : Cursor) : Except Flaw (Token × Cursor) :=
  match readHandle c.skipBlanks with
  | .error e => .error e
  | .ok (handle, c) =>
    if handle.getLast? != some '!' then .error .badDirective
    else if !(c.rest.head?.any isSpaceOrTab) then .error .badDirective
    else
      match readTagRest true [] c.skipBlanks with
      | .error e => .error e
      | .ok (start, c) =>
        if atBlankOrEnd c.rest then .ok (.tagDirective (String.ofList handle) start, c)
        else .error .badDirective

/-- **Reads a directive** and the rest of its line. -/
def readDirective (c : Cursor) : Except Flaw (Token × Cursor) :=
  let (name, c) := c.skip.takeWhile isWord
  let result : Except Flaw (Token × Cursor) :=
    if name.isEmpty || !atBlankOrEnd c.rest then .error .badDirective
    else if name == "YAML".toList then readVersion c
    else if name == "TAG".toList then readTagDirective c
    else .error .badDirective
  match result with
  | .error e => .error e
  | .ok (token, c) =>
    let c := c.skipBlanks.skipComment
    if atBreakOrEnd c.rest then .ok (token, c.skipLine) else .error .badDirective

end SensorGateway.Yaml
