import SensorGateway.Config.Settings
import SensorGateway.GatewayError

/-!
The name that an encrypted outbound link expects its peer to have.

A name is the address of a host, or a name of the domain name system: labels of 1 to 63 letters,
digits, hyphens and low lines with dots between them, at most 253 characters in all. No label starts
or ends with a hyphen, the last one is not all digits, and one dot may end the name.
-/

set_option autoImplicit false

namespace SensorGateway.Tls

/-- The name of a peer. -/
inductive ServerName where
  | ip (address : Net.IpAddress)
  | dns (name : String)
deriving DecidableEq, Repr

namespace ServerName

/-- Cuts a list at each dot. -/
def labels : List Char → List (List Char)
  | [] => [[]]
  | c :: cs =>
    match labels cs with
    | l :: ls => if c = '.' then [] :: l :: ls else (c :: l) :: ls
    | [] => [[c]]

/-- Characters of a label. -/
def isLabelCharacter (c : Char) : Bool := c.isAlphanum || c = '-' || c = '_'

/-- Whether a list is a label. -/
def isLabel (l : List Char) : Bool :=
  !l.isEmpty && l.length ≤ 63 && l.all isLabelCharacter && l.head? ≠ some '-'
    && l.getLast? ≠ some '-'

/-- **Whether a text is a domain name.** -/
def isDnsName (s : String) : Bool :=
  let cs := s.toList
  let body := if cs.getLast? = some '.' then cs.dropLast else cs
  let ls := labels body
  !cs.isEmpty && cs.length ≤ 253 && ls.all isLabel
    && !(ls.getLast?.any fun l => l.all Char.isDigit)

/-- **Reads a name;** an address is an address even where it could be a name. -/
def parse? (s : String) : Option ServerName :=
  match Net.IpAddress.parse? s with
  | some x => some (ip x)
  | none => if isDnsName s then some (dns s) else none

/-- The name that a link to a host expects: the one that is set, or the host's. -/
def expected (settings : Config.ClientTls) (host : String) : Except GatewayError ServerName :=
  let name := settings.serverName.getD host
  match parse? name with
  | some x => .ok x
  | none => .error (.tlsConfig ("invalid server name: " ++ name))

end ServerName

end SensorGateway.Tls
