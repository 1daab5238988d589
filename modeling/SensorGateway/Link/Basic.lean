import SensorGateway.Handshake.Record
import SensorGateway.Session.Basic

/-!
Links.

A link joins the gateway to one node. Its task goes through stages: encryption is agreed on where
links are encrypted, the node introduces itself with a handshake record, the session is inserted,
and from then on the task only watches: whether the node leaves, whether the table lets go of the
link, and whether the gateway stops. What a node does in a stage is noticed in that stage; what it
does while its session is being inserted is noticed when the link is watched.
-/

set_option autoImplicit false

namespace SensorGateway

/-- Where the task of a link stands. -/
inductive Stage where
  /-- Encryption is to be agreed on; these bytes have come so far. -/
  | securing (received : List UInt8)
  /-- The node is to introduce itself; these bytes have come so far. -/
  | greeting (received : List UInt8)
  /-- The node has introduced itself, and its session is to be inserted. -/
  | introduced (record : Handshake.Record)
  /-- The session was inserted under a number, and the link is watched. -/
  | watching (sensor : SensorId) (ticket : Ticket)
  /-- The link is closed and its task has ended. -/
  | ended
deriving DecidableEq

/-- A link. -/
structure Link where
  /-- The far end of the link. -/
  peer : Net.SocketAddress
  /-- Whether the link is encrypted. -/
  secure : Bool
  /-- The steady clock by which the node has to have introduced itself. -/
  deadline : Option Nat := none
  stage : Stage
  /-- What the gateway has sent. -/
  sent : List UInt8 := []
deriving DecidableEq

namespace Link

/-- The address that the link comes from or goes to. -/
def address (l : Link) : String := l.peer.host.text

/-- Whether the gateway has closed the link. -/
def isClosed (l : Link) : Bool := l.stage = .ended

/-- The link after its task. -/
def closed (l : Link) : Link := { l with stage := .ended }

end Link

end SensorGateway
