import SensorGateway.Clock
import SensorGateway.Reading

/-!
Sessions.

A session is what the gateway knows of one connected node: who it is, how it is reached, when it was
last heard of and its latest reading. While it is registered it holds the ticket of its link; the
link is closed when the ticket is let go.
-/

set_option autoImplicit false

namespace SensorGateway

/-- How sensor identifiers are given out. -/
inductive IdPolicy where
  /-- Each session takes the next number. -/
  | monotonic
  /-- Each session takes the number of sessions there are. -/
  | reuseSlot
deriving DecidableEq, Repr, Inhabited

/-- Whether a session's link stands, and why not. -/
inductive LinkStatus where
  | connected
  | disconnected
  | timedOut
deriving DecidableEq, Repr

namespace LinkStatus

/-- The word for a status. -/
def text : LinkStatus → String
  | connected => "CONNECTED"
  | disconnected => "DISCONNECTED"
  | timedOut => "TIMEOUT"

end LinkStatus

/-- The number of a link. No two links of a gateway have the same: the numbers are those of a counter
that is read and raised in one step. It has 64 bits, and `Nat` leaves out that it would come round
after 2^64 links, for which a gateway would have to take up a thousand million of them in each second
of more than five hundred years. -/
abbrev Ticket := Nat

/-- One connected node. -/
structure Session where
  sensor : SensorId
  /-- How many sessions there were when this one was admitted. It needs 32 bits at most, as the count
  does that it is read from (`Roster.activeCount`). -/
  slot : Nat
  /-- The address that the link comes from; permits are counted by it. -/
  address : String
  /-- The address that the node believes to have. -/
  reported : String
  port : UInt16
  active : Bool
  status : LinkStatus
  tls : Bool
  outbound : Bool
  connectedAt : Int
  lastActive : Int
  /-- The steady clock at the last activity. -/
  lastSeen : Nat
  latest : Reading
  /-- The ticket of the link, until it is let go. -/
  link : Option Ticket
deriving DecidableEq, Repr

namespace Session

/-- **A session as its link task makes it:** connected, active, and not numbered yet. -/
def start (address reported : String) (port : UInt16) (tls : Bool) (link : Ticket) (now : Moment) :
    Session where
  sensor := ⟨0⟩
  slot := 0
  address := address
  reported := reported
  port := port
  active := true
  status := .connected
  tls := tls
  outbound := false
  connectedAt := now.wall
  lastActive := now.wall
  lastSeen := now.steady
  latest := Reading.initial ⟨0⟩ now.seconds
  link := some link

/-- Notes a reading, which is activity. -/
def hear (s : Session) (reading : Reading) (now : Moment) : Session :=
  { s with latest := reading, lastActive := now.wall, lastSeen := now.steady }

/-- How long the session has been idle; a last activity in the future counts as none. -/
def idleFor (s : Session) (steady : Nat) : Nat := steady - s.lastSeen

/-- **A session that has left:** inactive, with the reason as its status and its link let go. -/
def ended (s : Session) (status : LinkStatus) : Session :=
  { s with active := false, status := status, link := none }

end Session

end SensorGateway
