import SensorGateway.Link.Inbound
import SensorGateway.Tls.ServerName

/-!
Outbound links.

The gateway dials a node, introduces itself with a record of its own, and inserts the session; from
then on the link is watched as an inbound one is. The record names the gateway's end of the link and
the port that the gateway runs on. Here it is the gateway that sends first, so a plain link stands as
soon as the record is sent, while an encrypted one has to wait for the node.
-/

set_option autoImplicit false

namespace SensorGateway.Gateway

/-! ## Dialing -/

/-- What a dialed node does when the gateway wants to encrypt the link. -/
inductive Manner where
  /-- It encrypts. -/
  | secure
  /-- It says nothing. -/
  | silent
  /-- It sends what is no message of an encrypted link. -/
  | garbage
deriving DecidableEq, Repr

/-- What came of reaching for a node. -/
inductive Reach where
  | failed (fault : OsFault)
  | reached (manner : Manner)
deriving DecidableEq, Repr

/-- How far a dialed link has come. -/
inductive Dialed where
  /-- The link stands, and the node has been sent these bytes. -/
  | standing (sent : List UInt8)
  /-- The node has yet to say something. -/
  | waiting
  | failed (e : GatewayError)
deriving DecidableEq

/-- The record that the gateway introduces itself with. -/
def greetingRecord (g : Gateway) (ownAddress : String) : Handshake.Record :=
  { address := ownAddress, port := g.table.roster.runningPort }

/-- Sends the record of the gateway; a plain link may fail at it. -/
def sendRecord (g : Gateway) (ownAddress : String) (fault : Option OsFault) : Dialed :=
  match (g.greetingRecord ownAddress).encode, fault with
  | .error e, _ => .failed (.protocol e)
  | .ok _, some fault => .failed (.io (.os fault))
  | .ok bytes, none => .standing bytes

/-- **Dials a node.** The name that an encrypted peer should have is looked at on plain links too. -/
def dial (g : Gateway) (ip : Net.Ipv4) (ownAddress : String) (reach : Reach)
    (fault : Option OsFault) : Dialed :=
  match reach with
  | .failed fault => .failed (.io (.os fault))
  | .reached manner =>
    match Tls.ServerName.expected g.config.clientTls ip.text with
    | .error e => .failed e
    | .ok _ =>
      if !g.config.clientTls.enabled then g.sendRecord ownAddress fault
      else match manner with
        | .secure => g.sendRecord ownAddress none
        | .silent => .waiting
        | .garbage => .failed (.tlsHandshake Tls.HeaderFlaw.kind.message)

/-! ## The session -/

/-- The session of a dialed node. -/
def outboundSession (g : Gateway) (ip : Net.Ipv4) (port : UInt16) (ticket : Ticket)
    (now : Moment) : Session :=
  { Session.start ip.text ip.text port g.config.clientTls.enabled ticket now with outbound := true }

/-- **Inserts the session of a dialed node.** -/
def enrollOutbound (g : Gateway) (l : Link) (ip : Net.Ipv4) (port : UInt16) (now : Moment) :
    Except GatewayError SensorId × LinkStep :=
  let (ticket, g) := g.takeTicket
  match g.table.insert (g.outboundSession ip port ticket now) now with
  | (.ok id, t) =>
    (.ok id, { l with stage := .watching id ticket },
      { g with table := t }.measure (·.newSession t.activeCount),
      [.sensorCame id, .wentOut ip.text port id l.secure])
  | (.error e, t) =>
    (.error (.rejected e), l.closed, { g with table := t }.measure (·.reject e.reason), [])

/-- The answer to a command that has linked a node. -/
def connectedText (ip : Net.Ipv4) (port : UInt16) (id : SensorId) : String :=
  "Connected to " ++ ip.text ++ ":" ++ toString port ++ " (ID: " ++ id.text ++ ")"

end SensorGateway.Gateway
