import SensorGateway.Net.Ipv6

/-!
Addresses of hosts and of sockets.
-/

set_option autoImplicit false

namespace SensorGateway.Net

/-! ## Hosts -/

/-- The address of a host. -/
inductive IpAddress where
  | v4 (address : Ipv4)
  | v6 (address : Ipv6)
deriving DecidableEq, Repr

namespace IpAddress

/-- **Reads an address of either kind that is the whole text.** -/
def parse? (s : String) : Option IpAddress :=
  match Ipv4.take? s.toList with
  | some (x, []) => some (v4 x)
  | some _ => none
  | none =>
    match Ipv6.take? s.toList with
    | some (x, []) => some (v6 x)
    | _ => none

/-- The written form. -/
def text : IpAddress → String
  | v4 x => x.text
  | v6 x => x.text

/-- The address that stands for every interface. -/
def unspecified : IpAddress := v4 .unspecified

end IpAddress

/-! ## Sockets -/

/-- The address of a socket. An IPv6 host may name the scope that it is meant in. -/
structure SocketAddress where
  host : IpAddress
  scope : Nat := 0
  port : UInt16
deriving DecidableEq, Repr

namespace SocketAddress

/-- Takes the scope behind a percent sign, or nothing, which means scope 0. -/
def takeScope? (cs : List Char) : Option (Nat × List Char) :=
  match cs with
  | '%' :: rest => takeNumber? 10 none Text.maxWord32 rest
  | _ => some (0, cs)

/-- A colon and a port that end the text. -/
def portAtEnd? (cs : List Char) : Option UInt16 := do
  let cs ← takeChar? ':' cs
  match takeNumber? 10 none Text.maxWord16 cs with
  | some (n, []) => some n.toUInt16
  | _ => none

/-- A bracketed IPv6 host with its port. -/
def bracketed? (cs : List Char) : Option SocketAddress := do
  let cs ← takeChar? '[' cs
  let (x, cs) ← Ipv6.take? cs
  let (scope, cs) ← takeScope? cs
  let cs ← takeChar? ']' cs
  let port ← portAtEnd? cs
  return ⟨.v6 x, scope, port⟩

/-- **Reads a host and a port:** an IPv6 host stands in brackets. -/
def parse? (s : String) : Option SocketAddress :=
  match Ipv4.take? s.toList with
  | some (x, rest) => (portAtEnd? rest).map fun port => ⟨.v4 x, 0, port⟩
  | none => bracketed? s.toList

/-- The written form. -/
def text (x : SocketAddress) : String :=
  match x.host with
  | .v4 a => a.text ++ ":" ++ toString x.port
  | .v6 a =>
    let scope := if x.scope = 0 then "" else "%" ++ toString x.scope
    "[" ++ a.text ++ scope ++ "]:" ++ toString x.port

end SocketAddress

end SensorGateway.Net
