import SensorGateway.Yaml.Token

/-!
From tokens to nodes.

A node is a scalar, a sequence, a mapping, or an alias of a node that carries an anchor. Where the
grammar has room for a node and none is written, there is an empty plain scalar. The readers go down
through the grammar; each call goes over a token or passes to a call that does, so a multiple of the
number of tokens is fuel enough.
-/

set_option autoImplicit false

namespace SensorGateway.Yaml

/-! ## Nodes -/

/-- What may stand in front of a node: an anchor and a tag. -/
structure Properties where
  anchor : Option String := none
  tag : Option String := none
deriving DecidableEq, Repr

/-- A node of a document. -/
inductive Node where
  | reference (name : String)
  | scalar (properties : Properties) (text : String) (style : ScalarStyle)
  | sequence (properties : Properties) (items : List Node)
  | mapping (properties : Properties) (entries : List (Node × Node))

namespace Node

/-- The node where none is written. -/
def empty : Node := scalar {} "" .plain

/-! ## Tags -/

/-- What handles of tags stand for. -/
abbrev Handles := List (String × String)

/-- The handles that every document has. -/
def defaultHandles : Handles := [("!", "!"), ("!!", "tag:yaml.org,2002:")]

/-- **The tag of a handle and a suffix.** -/
def resolveTag (handles : Handles) (handle suffix : String) : Except Flaw String :=
  if handle = "" then .ok suffix
  else match handles.find? (·.1 = handle) with
    | some (_, start) => .ok (start ++ suffix)
    | none => .error .unknownTagHandle

/-- The anchor and the tag at the front, in either order. -/
def takeProperties (handles : Handles) :
    List Token → Except Flaw (Properties × List Token)
  | .anchor name :: .tag h s :: rest =>
    (resolveTag handles h s).map fun tag => (⟨some name, some tag⟩, rest)
  | .tag h s :: .anchor name :: rest =>
    (resolveTag handles h s).map fun tag => (⟨some name, some tag⟩, rest)
  | .anchor name :: rest => .ok (⟨some name, none⟩, rest)
  | .tag h s :: rest => (resolveTag handles h s).map fun tag => (⟨none, some tag⟩, rest)
  | rest => .ok ({}, rest)

/-- The properties of a scalar, where the bare mark `!` is no tag. -/
def scalarProperties (p : Properties) : Properties :=
  if p.tag = some "!" then { p with tag := none } else p

/-! ## Grammar -/

/-- A node and the tokens behind it. -/
abbrev Parsed := Except Flaw (Node × List Token)

/-- Entries of a collection and the tokens behind it. -/
abbrev ParsedItems := Except Flaw (List Node × List Token)

/-- Pairs of a mapping and the tokens behind it. -/
abbrev ParsedPairs := Except Flaw (List (Node × Node) × List Token)

/-- Whether one of the given tokens is next, so that no node is written here. -/
def nextIs (stops : List Token) (ts : List Token) : Bool :=
  match ts with
  | t :: _ => stops.contains t
  | [] => true

/-- Drops the next token. -/
def behind (ts : List Token) : List Token := ts.tail

mutual

/-- **Reads a node.** Block collections are allowed only outside of brackets, and a sequence without
an indentation of its own only as part of a mapping. -/
def read (handles : Handles) (block indentless : Bool) : (fuel : Nat) → List Token → Parsed
  | 0, _ => .error .tooDeep
  | fuel + 1, .reference name :: rest => let _ := fuel; .ok (reference name, rest)
  | fuel + 1, ts =>
    match takeProperties handles ts with
    | .error e => .error e
    | .ok (p, ts) =>
      match ts with
      | .scalar text style :: rest => .ok (scalar (scalarProperties p) text style, rest)
      | .flowSequenceStart :: rest =>
        (readFlowItems handles true fuel rest).map fun (xs, rest) => (sequence p xs, rest)
      | .flowMappingStart :: rest =>
        (readFlowPairs handles true fuel rest).map fun (xs, rest) => (mapping p xs, rest)
      | .blockEntry :: rest =>
        if indentless then
          (readIndentless handles fuel (.blockEntry :: rest)).map fun (xs, rest) =>
            (sequence p xs, rest)
        else emptyOr p (.blockEntry :: rest)
      | .blockSequenceStart :: rest =>
        if block then
          (readBlockItems handles fuel rest).map fun (xs, rest) => (sequence p xs, rest)
        else emptyOr p (.blockSequenceStart :: rest)
      | .blockMappingStart :: rest =>
        if block then
          (readBlockPairs handles fuel rest).map fun (xs, rest) => (mapping p xs, rest)
        else emptyOr p (.blockMappingStart :: rest)
      | ts => emptyOr p ts

/-- The empty scalar, if properties are written for it. -/
def emptyOr (p : Properties) (ts : List Token) : Parsed :=
  if p = {} then .error .nodeMissing else .ok (scalar (scalarProperties p) "" .plain, ts)

/-- A node, or the empty node where one of `stops` is next. -/
def readOr (handles : Handles) (block indentless : Bool) (stops : List Token) :
    (fuel : Nat) → List Token → Parsed
  | 0, _ => .error .tooDeep
  | fuel + 1, ts =>
    if nextIs stops ts then .ok (empty, ts) else read handles block indentless fuel ts

/-- The entries of a block sequence, up to the end of the block. -/
def readBlockItems (handles : Handles) : (fuel : Nat) → List Token → ParsedItems
  | 0, _ => .error .tooDeep
  | fuel + 1, ts =>
    match ts with
    | .blockEntry :: rest =>
      match readOr handles true false [.blockEntry, .blockEnd] fuel rest with
      | .error e => .error e
      | .ok (x, rest) => (readBlockItems handles fuel rest).map fun (xs, rest) => (x :: xs, rest)
    | .blockEnd :: rest => .ok ([], rest)
    | _ => .error .entryMissing

/-- The entries of a sequence that has the indentation of the mapping around it. -/
def readIndentless (handles : Handles) : (fuel : Nat) → List Token → ParsedItems
  | 0, _ => .error .tooDeep
  | fuel + 1, ts =>
    match ts with
    | .blockEntry :: rest =>
      match readOr handles true false [.blockEntry, .key, .value, .blockEnd] fuel rest with
      | .error e => .error e
      | .ok (x, rest) => (readIndentless handles fuel rest).map fun (xs, rest) => (x :: xs, rest)
    | ts => .ok ([], ts)

/-- The pairs of a block mapping, up to the end of the block. -/
def readBlockPairs (handles : Handles) : (fuel : Nat) → List Token → ParsedPairs
  | 0, _ => .error .tooDeep
  | fuel + 1, ts =>
    match ts with
    | .key :: rest =>
      match readOr handles true true [.key, .value, .blockEnd] fuel rest with
      | .error e => .error e
      | .ok (k, rest) => readBlockValue handles k fuel rest
    | .blockEnd :: rest => .ok ([], rest)
    | _ => .error .keyMissing

/-- The value of a key in a block mapping, and the pairs behind it. -/
def readBlockValue (handles : Handles) (k : Node) : (fuel : Nat) → List Token → ParsedPairs
  | 0, _ => .error .tooDeep
  | fuel + 1, ts =>
    let value : Parsed := match ts with
      | .value :: rest => readOr handles true true [.key, .value, .blockEnd] fuel rest
      | ts => .ok (empty, ts)
    match value with
    | .error e => .error e
    | .ok (v, rest) => (readBlockPairs handles fuel rest).map fun (xs, rest) => ((k, v) :: xs, rest)

/-- The entries of a sequence in brackets. -/
def readFlowItems (handles : Handles) (first : Bool) : (fuel : Nat) → List Token → ParsedItems
  | 0, _ => .error .tooDeep
  | fuel + 1, ts =>
    match ts with
    | .flowSequenceEnd :: rest => .ok ([], rest)
    | ts =>
      if !first && !nextIs [.flowEntry] ts then .error .separatorMissing
      else
        let ts := if first then ts else behind ts
        match ts with
        | .flowSequenceEnd :: rest => .ok ([], rest)
        | .key :: rest =>
          match readSinglePair handles fuel rest with
          | .error e => .error e
          | .ok (x, rest) =>
            (readFlowItems handles false fuel rest).map fun (xs, rest) => (x :: xs, rest)
        | ts =>
          match read handles false false fuel ts with
          | .error e => .error e
          | .ok (x, rest) =>
            (readFlowItems handles false fuel rest).map fun (xs, rest) => (x :: xs, rest)

/-- A pair that stands as an entry of a sequence in brackets. Where its key is missing, the token in
its place is passed over. -/
def readSinglePair (handles : Handles) : (fuel : Nat) → List Token → Parsed
  | 0, _ => .error .tooDeep
  | fuel + 1, ts =>
    let key : Parsed :=
      if nextIs [.value, .flowEntry, .flowSequenceEnd] ts then .ok (empty, behind ts)
      else read handles false false fuel ts
    match key with
    | .error e => .error e
    | .ok (k, rest) =>
      let value : Parsed := match rest with
        | .value :: rest => readOr handles false false [.flowEntry, .flowSequenceEnd] fuel rest
        | rest => .ok (empty, rest)
      value.map fun (v, rest) => (mapping {} [(k, v)], rest)

/-- The pairs of a mapping in braces. -/
def readFlowPairs (handles : Handles) (first : Bool) : (fuel : Nat) → List Token → ParsedPairs
  | 0, _ => .error .tooDeep
  | fuel + 1, ts =>
    match ts with
    | .flowMappingEnd :: rest => .ok ([], rest)
    | ts =>
      if !first && !nextIs [.flowEntry] ts then .error .separatorMissing
      else
        let ts := if first then ts else behind ts
        match ts with
        | .flowMappingEnd :: rest => .ok ([], rest)
        | .key :: rest =>
          match readOr handles false false [.value, .flowEntry, .flowMappingEnd] fuel rest with
          | .error e => .error e
          | .ok (k, rest) => readFlowValue handles k fuel rest
        | ts =>
          -- A node without a colon is a key whose value is empty.
          match read handles false false fuel ts with
          | .error e => .error e
          | .ok (k, rest) =>
            (readFlowPairs handles false fuel rest).map fun (xs, rest) => ((k, empty) :: xs, rest)

/-- The value of a key in braces, and the pairs behind it. -/
def readFlowValue (handles : Handles) (k : Node) : (fuel : Nat) → List Token → ParsedPairs
  | 0, _ => .error .tooDeep
  | fuel + 1, ts =>
    let value : Parsed := match ts with
      | .value :: rest => readOr handles false false [.flowEntry, .flowMappingEnd] fuel rest
      | ts => .ok (empty, ts)
    match value with
    | .error e => .error e
    | .ok (v, rest) =>
      (readFlowPairs handles false fuel rest).map fun (xs, rest) => ((k, v) :: xs, rest)

end

end Node

end SensorGateway.Yaml
