import SensorGateway.Net.Ipv4

/-!
IPv6 addresses: eight groups of 16 bits in hexadecimal form.

`::` stands once for at least one group of zeros, and an IPv4 address may stand for the last two
groups of what is in front of the end. The written form shortens the first longest run of two or
more zero groups, and shows an address that maps IPv4 in dotted form.
-/

set_option autoImplicit false

namespace SensorGateway.Net

/-- An IPv6 address: its eight groups. -/
structure Ipv6 where
  groups : Vector UInt16 8
deriving DecidableEq, Repr

namespace Ipv6

/-! ## Reading -/

/-- Two octets as one group. -/
def group (hi lo : UInt8) : UInt16 := (hi.toNat * 256 + lo.toNat).toUInt16

/-- Takes the colon in front of a group; the first group has none. -/
def takeSeparator? (first : Bool) (cs : List Char) : Option (List Char) :=
  if first then some cs else takeChar? ':' cs

/-- An embedded IPv4 address with its separator, as two groups. -/
def takeEmbedded? (first : Bool) (cs : List Char) : Option (List UInt16 × List Char) := do
  let cs ← takeSeparator? first cs
  let (x, cs) ← Ipv4.take? cs
  return ([group x.a x.b, group x.c x.d], cs)

/-- One hexadecimal group with its separator. -/
def takeGroup? (first : Bool) (cs : List Char) : Option (UInt16 × List Char) := do
  let cs ← takeSeparator? first cs
  let (n, cs) ← takeNumber? 16 (some 4) 65535 cs
  return (n.toUInt16, cs)

/-- **Takes as many groups as there are, up to `room`.** Answers with the groups, with whether an
IPv4 address ended them, and with the rest. An IPv4 address needs room for two groups. -/
def takeGroups : (room : Nat) → (first : Bool) → List Char → List UInt16 × Bool × List Char
  | 0, _, cs => ([], false, cs)
  | room + 1, first, cs =>
    match (if 1 ≤ room then takeEmbedded? first cs else none) with
    | some (gs, rest) => (gs, true, rest)
    | none =>
      match takeGroup? first cs with
      | some (g, rest) =>
        let (gs, embedded, rest) := takeGroups room false rest
        (g :: gs, embedded, rest)
      | none => ([], false, cs)

/-- Eight groups as an address. -/
def ofList? (gs : List UInt16) : Option Ipv6 :=
  if h : gs.length = 8 then some ⟨⟨gs.toArray, by simpa using h⟩⟩ else none

/-- **Takes an address off the front:** eight groups, or fewer with `::` between them. -/
def take? (cs : List Char) : Option (Ipv6 × List Char) :=
  let (head, embedded, rest) := takeGroups 8 true cs
  if head.length = 8 then (ofList? head).map (·, rest)
  else if embedded then none
  else do
    let rest ← takeChar? ':' rest
    let rest ← takeChar? ':' rest
    let (tail, _, rest) := takeGroups (7 - head.length) true rest
    let zeros := List.replicate (8 - head.length - tail.length) 0
    let x ← ofList? (head ++ zeros ++ tail)
    return (x, rest)

/-! ## Written form -/

/-- A group in hexadecimal digits. -/
def groupText (g : UInt16) : String := String.ofList (Text.digitChars 16 g.toNat)

/-- Groups with colons between them. -/
def groupsText (gs : List UInt16) : String := ":".intercalate (gs.map groupText)

/-- How many zero groups stand at the front. -/
def leadingZeros (gs : List UInt16) : Nat := (gs.takeWhile (· == 0)).length

/-- **Start and length of the first longest run of zero groups** among the tails of a list whose
first element has index `i`; `best` is the longest run met before. -/
def longestRun (best : Nat × Nat) (i : Nat) : List UInt16 → Nat × Nat
  | [] => best
  | g :: gs =>
    let n := leadingZeros (g :: gs)
    longestRun (if best.2 < n then (i, n) else best) (i + 1) gs

/-- The IPv4 address that an address maps, if it is of the mapped kind. -/
def mapped? (x : Ipv6) : Option Ipv4 :=
  match x.groups.toList with
  | [0, 0, 0, 0, 0, 0xFFFF, p, q] =>
    some ⟨(p.toNat / 256).toUInt8, p.toUInt8, (q.toNat / 256).toUInt8, q.toUInt8⟩
  | _ => none

/-- **The written form.** -/
def text (x : Ipv6) : String :=
  match x.mapped? with
  | some v4 => "::ffff:" ++ v4.text
  | none =>
    let gs := x.groups.toList
    let (start, count) := longestRun (0, 0) 0 gs
    if 1 < count then groupsText (gs.take start) ++ "::" ++ groupsText (gs.drop (start + count))
    else groupsText gs

end Ipv6

end SensorGateway.Net
