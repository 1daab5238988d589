import SensorGateway.Gateway.Basic
import SensorGateway.Link.Basic
import SensorGateway.Tls.Header

/-!
Inbound links.

Each function here is one step of the task of a link, or one thing that happens to it. A node is
turned away before anything is read if its address is at its limit. Otherwise the first 24 bytes it
sends decide, however they are cut into pieces and whatever follows: they are a record or the link is
refused, and then the table decides. The permit is taken with the insert and not before, so a node
that never introduces itself holds none.
-/

set_option autoImplicit false

namespace SensorGateway.Gateway

/-- A link and the gateway after a step, with what the step told the log. -/
abbrev LinkStep := Link × Gateway × List Notice

/-! ## Coming in -/

/-- How long a node may take to introduce itself, in milliseconds. -/
def handshakeLimit (g : Gateway) : Option Nat := g.config.network.handshakeLimit

/-- **A link has come in.** -/
def accept (g : Gateway) (peer : Net.SocketAddress) (now : Moment) : LinkStep :=
  let secure := g.config.tls.enabled
  let link : Link :=
    { peer := peer
      secure := secure
      deadline := g.handshakeLimit.map (now.steady + ·)
      stage := if secure then .securing [] else .greeting [] }
  if g.table.ledger.wouldAllow link.address then (link, g, [])
  else (link.closed, g.measure (·.reject "admission"), [.turnedAway link.address])

/-- The handshake of a link has failed. -/
def refuse (g : Gateway) (l : Link) (e : GatewayError) : LinkStep :=
  (l.closed, g.measure (·.reject "handshake"), [.handshakeFailed l.peer.text e])

/-! ## Encryption -/

/-- Encryption has been agreed on. -/
def secured (l : Link) : Link :=
  match l.stage with
  | .securing _ => { l with stage := .greeting [] }
  | _ => l

/-! ## What the node does -/

/-- The first bytes of a link, once there are enough for a record. -/
def introduce (g : Gateway) (l : Link) (received : List UInt8) : LinkStep :=
  if received.length < Handshake.recordSize then ({ l with stage := .greeting received }, g, [])
  else match Handshake.Record.decode (received.take Handshake.recordSize) with
    | .ok record => ({ l with stage := .introduced record }, g, [])
    | .error e => g.refuse l (.protocol e)

/-- **Bytes have come.** Once the node has introduced itself they are ignored. -/
def hear (g : Gateway) (l : Link) (chunk : List UInt8) : LinkStep :=
  match l.stage with
  | .securing received =>
    match Tls.headerFlaw? (received ++ chunk) with
    | some flaw =>
      g.refuse { l with sent := l.sent ++ Tls.decodeAlert } (.tlsHandshake flaw.message)
    | none => ({ l with stage := .securing (received ++ chunk) }, g, [])
  | .greeting received => g.introduce l (received ++ chunk)
  | _ => (l, g, [])

/-- The node of a watched link is gone: its session, if it is still there, is taken out. -/
def leave (g : Gateway) (l : Link) (sensor : SensorId) (ticket : Ticket) : LinkStep :=
  match g.table.removeLink ticket with
  | (some _, t) => (l.closed, { g with table := t }.showActive, [.sensorLeft sensor])
  | (none, _) => (l.closed, g.showActive, [])

/-- **The node has closed its end.** -/
def hangUp (g : Gateway) (l : Link) : LinkStep :=
  match l.stage with
  | .securing _ => g.refuse l (.tlsHandshake "tls handshake eof")
  | .greeting _ => g.refuse l (.io .earlyEof)
  | .watching sensor ticket => g.leave l sensor ticket
  | _ => (l, g, [])

/-- **The socket has failed.** -/
def breakDown (g : Gateway) (l : Link) (fault : OsFault) : LinkStep :=
  match l.stage with
  | .securing _ => g.refuse l (.tlsHandshake fault.message)
  | .greeting _ => g.refuse l (.io (.os fault))
  | .watching sensor ticket =>
    let (l, g, notices) := g.leave l sensor ticket
    (l, g, .socketFailed l.peer.text sensor fault :: notices)
  | _ => (l, g, [])

/-! ## What the gateway does -/

/-- Whether the node has let its time pass. -/
def isLate (l : Link) (now : Moment) : Bool :=
  match l.stage, l.deadline with
  | .securing _, some limit => limit ≤ now.steady
  | .greeting _, some limit => limit ≤ now.steady
  | _, _ => false

/-- **Time has passed.** -/
def expire (g : Gateway) (l : Link) (now : Moment) : LinkStep :=
  if isLate l now then g.refuse l (.io (.timedOut (g.handshakeLimit.getD 0))) else (l, g, [])

/-- The notice of a node whose record names another address than the one it comes from. -/
def mismatch (l : Link) (record : Handshake.Record) : List Notice :=
  if record.ip? = some l.peer.host then []
  else [.otherAddress l.peer.text record.address l.address]

/-- The session of a node that has introduced itself. -/
def inboundSession (l : Link) (record : Handshake.Record) (ticket : Ticket) (now : Moment) :
    Session :=
  Session.start l.address record.address record.port l.secure ticket now

/-- **Inserts the session of a node that has introduced itself.** -/
def enrollInbound (g : Gateway) (l : Link) (now : Moment) : LinkStep :=
  match l.stage with
  | .introduced record =>
    let (ticket, g) := g.takeTicket
    match g.table.insert (inboundSession l record ticket now) now with
    | (.ok id, t) =>
      ({ l with stage := .watching id ticket },
        { g with table := t }.measure (·.newSession t.activeCount),
        mismatch l record
          ++ [.sensorCame id, .cameIn record.address record.port id l.secure])
    | (.error e, t) =>
      (l.closed, { g with table := t }.measure (·.reject e.reason),
        mismatch l record ++ [.sessionRejected l.peer.text e])
  | _ => (l, g, [])

/-- **Looks after a watched link:** it is closed once the table has let go of it or the gateway
stops. -/
def attend (g : Gateway) (l : Link) : LinkStep :=
  match l.stage with
  | .watching _ ticket =>
    if g.stopped || g.table.released.contains ticket then (l.closed, g.showActive, [])
    else (l, g, [])
  | _ => (l, g, [])

end SensorGateway.Gateway
