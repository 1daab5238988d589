import SensorGateway.Yaml.Node
import SensorGateway.Yaml.Scanner

/-!
From a text to one document.

A stream may hold one document or none; what stands behind it has to end the stream. Aliases are
resolved by number. An anchor takes as its number how many different names there have been in front
of it, so a name that is used again may share its number with a later one; an alias then means the
node of its number that starts last.
-/

set_option autoImplicit false

namespace SensorGateway.Yaml

/-! ## Values -/

/-- A node whose aliases are numbers. -/
inductive Value where
  | reference (id : Nat)
  | scalar (tag : Option String) (text : String) (style : ScalarStyle)
  | sequence (tag : Option String) (items : List Value)
  | mapping (tag : Option String) (entries : List (Value × Value))

/-- What is known of anchors at a place in a document. -/
structure Anchors where
  /-- The number that each name means here. -/
  names : List (String × Nat) := []
  /-- How many nodes with an anchor have started. -/
  started : Nat := 0
  /-- The finished nodes with an anchor: when they started, their numbers, and themselves. -/
  nodes : List (Nat × Nat × Value) := []

namespace Anchors

/-- The number that a name means here. -/
def number? (a : Anchors) (name : String) : Option Nat :=
  (a.names.find? (·.1 = name)).map (·.2)

/-- **A node with an anchor starts.** Answers with its place among such nodes and its number. -/
def start (a : Anchors) (name : String) : (Nat × Nat) × Anchors :=
  let id := a.names.length
  let others := a.names.filter (·.1 ≠ name)
  ((a.started, id), { a with names := (name, id) :: others, started := a.started + 1 })

/-- `start` for a node that may have no anchor. -/
def startIf (a : Anchors) : Option String → Option (Nat × Nat) × Anchors
  | none => (none, a)
  | some name =>
    let (place, a) := a.start name
    (some place, a)

/-- A node ends. -/
def finish (a : Anchors) (place : Option (Nat × Nat)) (v : Value) : Anchors :=
  match place with
  | none => a
  | some (start, id) => { a with nodes := (start, id, v) :: a.nodes }

/-- **The node that a number means:** the one of that number that starts last. -/
def target? (a : Anchors) (id : Nat) : Option Value :=
  let candidates := a.nodes.filter (·.2.1 = id)
  let last := candidates.foldl (fun n c => max n c.1) 0
  (candidates.find? (·.1 = last)).map (·.2.2)

end Anchors

mutual

/-- **Resolves the aliases of a node;** an alias needs an anchor that starts in front of it. -/
def resolve (a : Anchors) : Node → Except Flaw (Value × Anchors)
  | .reference name =>
    match a.number? name with
    | some id => .ok (.reference id, a)
    | none => .error .unknownAnchor
  | .scalar p text style =>
    let (place, a) := a.startIf p.anchor
    let v := Value.scalar p.tag text style
    .ok (v, a.finish place v)
  | .sequence p items =>
    let (place, a) := a.startIf p.anchor
    match resolveItems a items with
    | .error e => .error e
    | .ok (vs, a) =>
      let v := Value.sequence p.tag vs
      .ok (v, a.finish place v)
  | .mapping p entries =>
    let (place, a) := a.startIf p.anchor
    match resolvePairs a entries with
    | .error e => .error e
    | .ok (vs, a) =>
      let v := Value.mapping p.tag vs
      .ok (v, a.finish place v)

/-- `resolve` for entries in order. -/
def resolveItems (a : Anchors) : List Node → Except Flaw (List Value × Anchors)
  | [] => .ok ([], a)
  | x :: xs =>
    match resolve a x with
    | .error e => .error e
    | .ok (v, a) => (resolveItems a xs).map fun (vs, a) => (v :: vs, a)

/-- `resolve` for pairs in order, each key in front of its value. -/
def resolvePairs (a : Anchors) : List (Node × Node) → Except Flaw (List (Value × Value) × Anchors)
  | [] => .ok ([], a)
  | (k, x) :: xs =>
    match resolve a k with
    | .error e => .error e
    | .ok (kv, a) =>
      match resolve a x with
      | .error e => .error e
      | .ok (v, a) => (resolvePairs a xs).map fun (vs, a) => ((kv, v) :: vs, a)

end

/-! ## Documents -/

/-- A document: its root, if anything is written, and what its aliases mean. -/
structure Document where
  root : Option Value := none
  anchors : Anchors := {}

/-- **Takes the directives in front of a document.** A version has to be 1.1 or 1.2 and stands once,
and a handle is declared once. -/
def takeDirectives (version : Bool) (handles : Node.Handles) :
    List Token → Except Flaw (Node.Handles × List Token)
  | .versionDirective major minor :: rest =>
    if version || major ≠ 1 || (minor ≠ 1 && minor ≠ 2) then .error .badDirective
    else takeDirectives true handles rest
  | .tagDirective handle start :: rest =>
    if handles.any (·.1 = handle) then .error .badDirective
    else takeDirectives version (handles ++ [(handle, start)]) rest
  | rest => .ok (handles, rest)

/-- Whether the next token cannot be part of a document's node. -/
def atDocumentEdge : List Token → Bool
  | .versionDirective .. :: _ => true
  | .tagDirective .. :: _ => true
  | .documentStart :: _ => true
  | .documentEnd :: _ => true
  | .streamEnd :: _ => true
  | [] => true
  | _ => false

/-- Whether nothing but marks of a document's end is left in front of the end of the stream. -/
def atStreamEnd : List Token → Bool
  | .documentEnd :: rest => atStreamEnd rest
  | .streamEnd :: _ => true
  | _ => false

/-- The node of a document and the tokens behind it. -/
def readRoot (handles : Node.Handles) (ts : List Token) : Node.Parsed :=
  Node.read (handles ++ Node.defaultHandles) true false (4 * ts.length + 4) ts

/-- The node of a document that may start without a mark. -/
def readDocument (ts : List Token) : Node.Parsed :=
  match ts with
  | .documentEnd :: _ => .error .nodeMissing
  | _ =>
    if !atDocumentEdge ts then readRoot [] ts
    else
      match takeDirectives false [] ts with
      | .error e => .error e
      | .ok (handles, .documentStart :: rest) =>
        if atDocumentEdge rest then .ok (.empty, rest) else readRoot handles rest
      | .ok _ => .error .documentStartMissing

/-- **Reads the one document of a text.** -/
def parse (text : String) : Except Flaw Document :=
  match scan text with
  | .error e => .error e
  | .ok [.streamEnd] => .ok {}
  | .ok ts =>
    match readDocument ts with
    | .error e => .error e
    | .ok (node, rest) =>
      if !atStreamEnd rest then .error .secondDocument
      else
        match resolve {} node with
        | .error e => .error e
        | .ok (v, anchors) => .ok ⟨some v, anchors⟩

end SensorGateway.Yaml
