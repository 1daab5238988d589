import SensorGateway.Metrics.Http
import SensorGateway.Plant.Basic

/-!
What nodes do to a gateway at work.

A node dials the gateway, sends bytes, and closes its end or a half of it; the gateway dials nodes in
turn; and the metrics server is asked for pages. Each function here is one such event with all that
follows from it.
-/

set_option autoImplicit false

namespace SensorGateway.Plant

/-! ## Faults -/

/-- Takes the next fault of a call. -/
def takeFault (p : Plant) (call : Call) : Option OsFault × Plant :=
  match Roster.splitFirst (fun f => decide (f.1 = call)) p.faults with
  | some ((_, fault), rest) => (some fault, { p with faults := rest })
  | none => (none, p)

/-- Takes every fault of accepting a link: each is told, and the link is accepted after them. -/
def failAccepts (p : Plant) (notice : OsFault → Notice) : Plant :=
  let (failing, others) := p.faults.partition fun f => decide (f.1 = .accept)
  let notices := failing.map fun f => notice f.2
  { p with faults := others }.tell notices

/-! ## Bytes -/

/-- Notes whether the gateway is in the middle of a look for bytes. -/
def setLooking (p : Plant) (i : Nat) (looking : Bool) : Plant :=
  match p.wires[i]? with
  | some w => { p with wires := p.wires.set i { w with looking := looking } }
  | none => p

/-- The gateway looks whether bytes have come; `found` says whether it will find any. -/
def look (p : Plant) (i : Nat) (found : Bool) : Plant :=
  match p.takeFault .peek with
  | (some fault, p) => p.onLink i fun g l => g.breakDown l fault
  | (none, p) => p.setLooking i (!found)

/-- Whether the session of a wire has been inserted and is watched. -/
def isWatched (p : Plant) (i : Nat) : Bool :=
  match p.wires[i]? with
  | none => false
  | some w => match w.link.stage with
    | .watching .. => true
    | _ => false

/-- How many bytes have come on a link whose node has yet to introduce itself. -/
def receivedLength (l : Link) : Nat :=
  match l.stage with
  | .greeting received => received.length
  | _ => 0

/-- **Bytes come on a link.** -/
def deliver (p : Plant) (i : Nat) (bytes : List UInt8) : Plant :=
  match p.wires[i]? with
  | none => p
  | some w =>
    if p.isWatched i then p.look i true
    else
      let beyond := decide (Handshake.recordSize < receivedLength w.link + bytes.length)
      let p := p.onLink i fun g l => g.hear l bytes
      let p := p.onLink i fun g l => g.enrollInbound l p.now
      if p.isWatched i then p.look i beyond else p

/-- **A node closes its end.** A look for bytes that is under way sees it, and may fail. -/
def closeEnd (p : Plant) (i : Nat) : Plant :=
  match p.wires[i]? with
  | none => p
  | some w =>
    let (fault, p) := if w.looking && !w.link.isClosed then p.takeFault .peek else (none, p)
    match fault with
    | some fault => p.onLink i fun g l => g.breakDown l fault
    | none => p.onLink i Gateway.hangUp

/-- The node of a wire hangs up and is not asked for any more. -/
def dropWire (p : Plant) (i : Nat) : Plant :=
  let p := p.closeEnd i
  { p with wires := p.wires.modify i fun w => { w with held := false } }

/-! ## Nodes by name -/

/-- The wire of the node with a name: the latest one that is still held. -/
def wireOf? (p : Plant) (name : String) : Option Nat :=
  ((List.range p.wires.length).filter fun i =>
    p.wires[i]?.any fun w => w.name = name && w.held).getLast?

/-- The link of the node with a name. -/
def linkOf? (p : Plant) (name : String) : Option Link :=
  (p.wireOf? name).bind fun i => p.wires[i]?.map (·.link)

/-- Adds a wire. -/
def addWire (p : Plant) (name : String) (link : Link) : Plant :=
  { p with wires := p.wires ++ [{ name := name, link := link }] }

/-- **A node sends bytes.** -/
def send (p : Plant) (name : String) (bytes : List UInt8) : Plant :=
  match p.wireOf? name with
  | some i => if bytes.isEmpty then p else (p.deliver i bytes).settle
  | none => p

/-- A node closes its sending side. -/
def halfClose (p : Plant) (name : String) : Plant :=
  match p.wireOf? name with
  | some i => (p.closeEnd i).settle
  | none => p

/-- **A node hangs up.** -/
def hangUp (p : Plant) (name : String) : Plant :=
  match p.wireOf? name with
  | some i => (p.dropWire i).settle
  | none => p

/-! ## Links to the gateway -/

/-- Why a server on the host cannot be reached, if it cannot. -/
def barrier? (p : Plant) (s : Service) : Option OsFault :=
  if !p.routed then some .networkUnreachable
  else if !p.isRunning s then some .connectionRefused
  else none

/-- **A node dials the gateway,** encrypts the link if it does that, and sends its first bytes. -/
def dial (p : Plant) (name : String) (peer : Net.SocketAddress) (encrypts : Bool)
    (bytes : List UInt8) : Except OsFault Plant :=
  match p.barrier? .gateway with
  | some fault => .error fault
  | none =>
    let p := p.failAccepts .acceptFailed
    let (link, g, notices) := p.gateway.accept peer p.now
    let link := if encrypts then Gateway.secured link else link
    let p := (p.addWire name link).setGateway g notices
    .ok (p.send name bytes).settle

/-- **The metrics server is asked for a page.** -/
def request (p : Plant) (text : String) : Except OsFault (Http.Response × Plant) :=
  match p.barrier? .metrics, p.gateway.metrics with
  | some fault, _ => .error fault
  | none, none => .error .connectionRefused
  | none, some m => .ok (Http.answer m text, p.failAccepts .metricsAcceptFailed)

/-! ## Links from the gateway -/

/-- The address of the gateway's end of a link on the host. -/
def ownAddress : String := Net.Ipv4.loopback.text

/-- A node starts to listen. -/
def addPeer (p : Plant) (name : String) (port : UInt16) : Plant :=
  { p with peers := p.peers ++ [⟨name, port, true⟩] }

/-- A node listens no more. -/
def removePeer (p : Plant) (name : String) : Plant :=
  { p with peers := p.peers.map fun x => if x.name = name then { x with listening := false } else x }

/-- The port of the node with a name. -/
def portOf? (p : Plant) (name : String) : Option UInt16 :=
  (p.peers.filter (·.name = name)).getLast?.map (·.port)

/-- How a node answers a gateway that wants to encrypt. One that takes no encrypted links has nothing
to say to it. -/
def Demeanor.manner : Demeanor → Gateway.Manner
  | plain => .silent
  | secure => .secure
  | silent => .silent
  | garbage => .garbage

/-- What comes of reaching for a node of the host. -/
def reach (p : Plant) (ip : Net.Ipv4) (port : UInt16) (d : Demeanor) : Gateway.Reach :=
  if !p.routed then .failed .networkUnreachable
  else if ip = .loopback && p.peers.any (fun x => x.port = port && x.listening) then
    .reached d.manner
  else .failed .connectionRefused

/-- Whether the gateway gets as far as sending its record without encryption. -/
def sendsPlain (p : Plant) (ip : Net.Ipv4) (r : Gateway.Reach) : Bool :=
  match r, Tls.ServerName.expected p.gateway.config.clientTls ip.text with
  | .reached _, .ok _ => !p.gateway.config.clientTls.enabled
  | _, _ => false

/-- What came of a command to link a node. -/
inductive Connected where
  | linked (id : SensorId)
  | failed (e : GatewayError)
  /-- The node has yet to say something. -/
  | waiting
deriving DecidableEq

/-- The link to a node, as it is before its session is inserted. -/
def outboundLink (p : Plant) (ip : Net.Ipv4) (port : UInt16) (sent : List UInt8) : Link where
  peer := ⟨.v4 ip, 0, port⟩
  secure := p.gateway.config.clientTls.enabled
  stage := .ended
  sent := sent

/-- A link stands: its session is inserted. A node that encrypts cannot make sense of a record that
is not encrypted, and hangs up. -/
def enroll (p : Plant) (name : String) (ip : Net.Ipv4) (port : UInt16) (d : Demeanor)
    (sent : List UInt8) : Connected × Plant :=
  let (result, link, g, notices) := p.gateway.enrollOutbound (p.outboundLink ip port sent) ip port p.now
  let i := p.wires.length
  let p := (p.addWire name link).setGateway g notices
  let p := if d = .secure && !link.secure then p.dropWire i else p
  match result with
  | .ok id => (.linked id, p)
  | .error e => (.failed e, p)

/-- A link could not be made. A node that takes links as they are has seen it come and go. -/
def giveUp (p : Plant) (name : String) (ip : Net.Ipv4) (port : UInt16) (d : Demeanor)
    (r : Gateway.Reach) : Plant :=
  match r, d with
  | .reached _, .plain => p.addWire name (p.outboundLink ip port [])
  | _, _ => p

/-- The gateway waits for a node to say something, until the node's time has passed. -/
def await (p : Plant) (ms : Nat) : Connected × Plant :=
  let later := p.advance ms
  match p.gateway.handshakeLimit with
  | some limit => if limit ≤ ms then (.failed (.io (.timedOut limit)), later) else (.waiting, later)
  | none => (.waiting, later)

/-- **The gateway is told to link a node.** If the node has nothing to say, `ms` milliseconds pass. -/
def connect (p : Plant) (name : String) (ip : Net.Ipv4) (port : UInt16) (d : Demeanor) (ms : Nat) :
    Connected × Plant :=
  let p := p.tell [.connecting ip.text port]
  let r := p.reach ip port d
  let (fault, p) := if p.sendsPlain ip r then p.takeFault .send else (none, p)
  let (result, p) := match p.gateway.dial ip ownAddress r fault with
    | .standing sent => p.enroll name ip port d sent
    | .failed e => (.failed e, p.giveUp name ip port d r)
    | .waiting => p.await ms
  (result, p.settle)

end SensorGateway.Plant
