import SensorGateway.Text.Number

/-!
IPv4 addresses in dotted decimal form: four numbers from 0 to 255 without leading zeros.

The readers of addresses are built from small steps that take a part off the front of a list of
characters and answer with the rest, so that the same steps serve an address that stands alone, one
at the end of an IPv6 address, and one in front of a port.
-/

set_option autoImplicit false

namespace SensorGateway.Net

/-- An IPv4 address: its four octets. -/
structure Ipv4 where
  a : UInt8
  b : UInt8
  c : UInt8
  d : UInt8
deriving DecidableEq, Repr

/-! ## Steps of a reader -/

/-- Takes one given character off the front. -/
def takeChar? (c : Char) : List Char → Option (List Char)
  | x :: xs => if x = c then some xs else none
  | [] => none

/-- The longest run of digits at the front, and the rest. -/
def spanBase (base : Nat) (cs : List Char) : List Char × List Char :=
  cs.span fun c => (Text.digitValue? base c).isSome

/-- **Takes a number off the front:** at least one digit, at most `maxDigits` if that is given, and a
value of at most `maxValue`. -/
def takeNumber? (base : Nat) (maxDigits : Option Nat) (maxValue : Nat) (cs : List Char) :
    Option (Nat × List Char) :=
  let (ds, rest) := spanBase base cs
  match Text.digits? base ds with
  | none => none
  | some n =>
    if n ≤ maxValue && maxDigits.all (ds.length ≤ ·) then some (n, rest) else none

/-- Takes one octet off the front: one to three digits, no zero in front of another digit. -/
def takeOctet? (cs : List Char) : Option (UInt8 × List Char) :=
  match takeNumber? 10 (some 3) 255 cs with
  | none => none
  | some (n, rest) =>
    if cs.head? = some '0' && cs.length - rest.length ≠ 1 then none else some (n.toUInt8, rest)

namespace Ipv4

/-- **Takes a dotted address off the front.** -/
def take? (cs : List Char) : Option (Ipv4 × List Char) := do
  let (a, cs) ← takeOctet? cs
  let cs ← takeChar? '.' cs
  let (b, cs) ← takeOctet? cs
  let cs ← takeChar? '.' cs
  let (c, cs) ← takeOctet? cs
  let cs ← takeChar? '.' cs
  let (d, cs) ← takeOctet? cs
  return (⟨a, b, c, d⟩, cs)

/-- Reads an address that is the whole text. -/
def parse? (s : String) : Option Ipv4 :=
  match take? s.toList with
  | some (x, []) => some x
  | _ => none

/-- **The dotted decimal form.** -/
def text (x : Ipv4) : String :=
  toString x.a ++ "." ++ toString x.b ++ "." ++ toString x.c ++ "." ++ toString x.d

/-- The address that stands for every interface. -/
def unspecified : Ipv4 := ⟨0, 0, 0, 0⟩

/-- The address of the host itself. -/
def loopback : Ipv4 := ⟨127, 0, 0, 1⟩

end Ipv4

end SensorGateway.Net
