import SensorGateway.Gateway.Readings
import SensorGateway.Gateway.Storing
import SensorGateway.Link.Outbound

/-!
A gateway at work.

A plant is a gateway together with what it works with: its disk, its clock, the services that run,
the links to nodes, and the nodes that it can dial. Services run in passes: a loop passes when it is
started and whenever its wait has ended, and a server acts when something comes in. Between two
changes from outside everything runs until nothing is left to do, so a plant is described by what
happens to it, one thing after another.

The clock stands still until it is advanced. Whatever has become due by then happens once, the
earliest first.
-/

set_option autoImplicit false

namespace SensorGateway

namespace Plant

/-- What a gateway can run. -/
inductive Service where
  | worker
  | reaper
  | sampler
  | monitor
  | gateway
  | metrics
deriving DecidableEq, Repr

/-- How a service has ended. -/
inductive Ending where
  | done
  | failed (e : Storage.StorageError)
deriving DecidableEq, Repr

/-- A service that was started. -/
structure Running where
  service : Service
  /-- When its wait ends, if it waits for that. -/
  due : Option Nat := none
  ending : Option Ending := none
  /-- Whether its ending has been asked for. -/
  joined : Bool := false
deriving DecidableEq, Repr

/-- A link by the name of its node. -/
structure Wire where
  name : String
  link : Link
  /-- Whether the node still holds its end. -/
  held : Bool := true
  /-- Whether the gateway is in the middle of a look for bytes. It is from the moment a session is
  inserted whose node has sent no more than its record, until the node sends again. -/
  looking : Bool := false
deriving DecidableEq

/-- How a node that can be dialed takes a link. -/
inductive Demeanor where
  /-- It takes links that are not encrypted. -/
  | plain
  | secure
  | silent
  | garbage
deriving DecidableEq, Repr

/-- A node that can be dialed on the host itself. -/
structure Peer where
  name : String
  port : UInt16
  listening : Bool := true
deriving DecidableEq, Repr

/-- Calls to the network that can be made to fail. -/
inductive Call where
  /-- Taking a link that has come in. -/
  | accept
  /-- Looking whether bytes have come. -/
  | peek
  /-- Sending without encryption. -/
  | send
  /-- Shutting a socket down; nothing depends on how that ends. -/
  | shutdown
deriving DecidableEq, Repr

end Plant

/-- A gateway at work. -/
structure Plant where
  gateway : Gateway
  disk : Disk
  now : Moment
  /-- Whether links to other hosts, and to the host itself, can be made. -/
  routed : Bool := false
  services : List Plant.Running := []
  wires : List Plant.Wire := []
  peers : List Plant.Peer := []
  /-- Calls that are going to fail, the next one first. -/
  faults : List (Plant.Call × OsFault) := []
  /-- What has been told to the log. -/
  log : List Notice := []

namespace Plant

/-! ## Small steps -/

/-- Tells the log. -/
def tell (p : Plant) (notices : List Notice) : Plant := { p with log := p.log ++ notices }

/-- Puts a gateway in place, with what it told the log. -/
def setGateway (p : Plant) (g : Gateway) (notices : List Notice) : Plant :=
  { p with gateway := g }.tell notices

/-- Whether a service runs. -/
def isRunning (p : Plant) (s : Service) : Bool :=
  p.services.any fun r => r.service = s && r.ending.isNone

/-- Applies a step to the link of a wire. -/
def onLink (p : Plant) (i : Nat) (step : Gateway → Link → Gateway.LinkStep) : Plant :=
  match p.wires[i]? with
  | none => p
  | some w =>
    let (l, g, notices) := step p.gateway w.link
    { p with wires := p.wires.set i { w with link := l } }.setGateway g notices

/-- **Lets every link see what has become of its session and of the gateway.** -/
def settle (p : Plant) : Plant :=
  (List.range p.wires.length).foldl (fun p i => p.onLink i Gateway.attend) p

/-! ## Passes -/

/-- When a loop passes again that waits for a number of seconds. -/
def afterSeconds (p : Plant) (seconds : Nat) : Option Nat := some (p.now.steady + seconds * 1000)

/-- One pass of the storage worker. -/
def storePass (p : Plant) (r : Running) : Running × Plant :=
  match p.gateway.storeOn p.disk p.now with
  | (.ok delay, g, d, notices) =>
    ({ r with due := some (p.now.steady + delay) }, { p with disk := d }.setGateway g notices)
  | (.error e, g, d, notices) =>
    ({ r with due := none, ending := some (.failed e) }, { p with disk := d }.setGateway g notices)

/-- One pass of the reaper. -/
def reapPass (p : Plant) (r : Running) : Running × Plant :=
  let (_, g, notices) := p.gateway.sweep p.now
  ({ r with due := p.afterSeconds g.config.session.reapIntervalSecs }, p.setGateway g notices)

/-- One pass of the sampler. Its draws are made from a word that every range accepts. -/
def samplePass (p : Plant) (r : Running) : Running × Plant :=
  match p.gateway.sample ⟨[0], 0⟩ p.now with
  | .ok s =>
    ({ r with due := p.afterSeconds s.gateway.config.sampler.intervalSecs }, p.setGateway s.gateway [])
  | .error _ => ({ r with due := none, ending := some .done }, p)

/-- One pass of the monitor. -/
def monitorPass (p : Plant) (r : Running) : Running × Plant :=
  let (alerts, g) := p.gateway.check
  ({ r with due := p.afterSeconds g.config.monitor.intervalSecs },
    p.setGateway g (alerts.map Gateway.alertNotice))

/-- **One pass of a service.** Servers do not pass. -/
def pass (p : Plant) (r : Running) : Running × Plant :=
  match r.service with
  | .worker => p.storePass r
  | .reaper => p.reapPass r
  | .sampler => p.samplePass r
  | .monitor => p.monitorPass r
  | .gateway => (r, p)
  | .metrics => (r, p)

/-! ## Ends -/

/-- A service that has ended well. -/
def Running.over (r : Running) : Running := { r with due := none, ending := some .done }

/-- The end of accepting links: every session goes. -/
def closeGateway (p : Plant) : Plant :=
  let (closed, t) := p.gateway.table.clear
  p.setGateway ({ p.gateway with table := t }.measure (·.showActive 0)) [.gatewayStopped closed]

/-- The end of the storage worker. -/
def closeWorker (p : Plant) : Plant :=
  let (g, d, notices) := p.gateway.flushOn p.disk
  { p with disk := d }.setGateway g (notices ++ [Notice.stopped .worker])

/-- **What a service does when the stop flag is raised.** -/
def finish (p : Plant) (s : Service) : Plant :=
  match s with
  | .worker => p.closeWorker
  | .reaper => p.tell [.stopped .reaper]
  | .sampler => p.tell [.stopped .sampler]
  | .monitor => p.tell [.stopped .monitor]
  | .gateway => p.closeGateway
  | .metrics => p.tell [.metricsStopped]

/-! ## Beginnings -/

/-- Whether the settings want a service. -/
def isWanted (c : Config) : Service → Bool
  | .sampler => c.sampler.enabled
  | .monitor => c.monitor.enabled
  | _ => true

/-- What a service says when it starts. Servers have been given a port. -/
def greeting (c : Config) (port : UInt16) : Service → Notice
  | .worker => .workerStarted c.storage.dbPath c.storage.drainIntervalMs
  | .reaper => .reaperStarted (c.session.reapIntervalSecs * 1000) (c.session.idleTimeoutSecs * 1000)
  | .sampler =>
    if c.sampler.enabled then .samplerStarted (c.sampler.intervalSecs * 1000) else .samplerDisabled
  | .monitor =>
    if c.monitor.enabled then .monitorStarted c.monitor.hotThreshold c.monitor.coldThreshold
    else .monitorDisabled
  | .gateway => .listening (Net.SocketAddress.text ⟨c.network.bindHost, 0, port⟩) c.tls.enabled
  | .metrics =>
    .metricsListening
      (if c.metrics.bindAddr.port = 0 then { c.metrics.bindAddr with port := port }.text
      else c.metrics.bindAddr.text)

/-- Notes the port that the gateway listens on. -/
def notePort (p : Plant) (port : UInt16) : Service → Plant
  | .gateway =>
    { p with gateway := { p.gateway with table := p.gateway.table.setRunningPort port } }
  | _ => p

/-- **Starts a service** and lets it make its first pass. A service that starts after the stop flag
was raised ends at once, as it ends when the flag is raised. -/
def start (p : Plant) (s : Service) (port : UInt16) : Plant :=
  let p := (p.notePort port s).tell [greeting p.gateway.config port s]
  let r : Running := { service := s }
  let (r, p) :=
    if !isWanted p.gateway.config s then (r.over, p)
    else if p.gateway.stopped then (r.over, p.finish s)
    else p.pass r
  { p with services := p.services ++ [r] }.settle

/-- Ends one service that runs. -/
def finishAt (p : Plant) (i : Nat) : Plant :=
  match p.services[i]? with
  | none => p
  | some r =>
    if r.ending.isSome then p
    else { p.finish r.service with services := p.services.set i r.over }

/-- **Raises the stop flag** and lets every service and link end. -/
def stop (p : Plant) : Plant :=
  let p := { p with gateway := p.gateway.stop }
  ((List.range p.services.length).foldl finishAt p).settle

/-- **How a service has ended,** told once; nothing while it runs. -/
def join (p : Plant) (s : Service) : Option Ending × Plant :=
  match p.services.findIdx? fun r => r.service = s && r.ending.isSome && !r.joined with
  | none => (none, p)
  | some i =>
    match p.services[i]? with
    | none => (none, p)
    | some r => (r.ending, { p with services := p.services.set i { r with joined := true } })

/-! ## Time -/

/-- Something that becomes due. -/
inductive Alarm where
  | service (i : Nat)
  | wire (i : Nat)
deriving DecidableEq, Repr

/-- What the services and links wait for, with its time. -/
def alarms (p : Plant) : List (Nat × Alarm) :=
  let services := (List.range p.services.length).filterMap fun i =>
    (p.services[i]?.bind (·.due)).map fun t => (t, Alarm.service i)
  let wires := (List.range p.wires.length).filterMap fun i =>
    (p.wires[i]?.bind (·.link.deadline)).map fun t => (t, Alarm.wire i)
  (services ++ wires).mergeSort fun a b => a.1 ≤ b.1

/-- Lets happen what has become due. -/
def ring (p : Plant) : Alarm → Plant
  | .wire i => p.onLink i fun g l => g.expire l p.now
  | .service i =>
    match p.services[i]? with
    | none => p
    | some r =>
      if r.ending.isSome then p
      else
        let (r, p) := p.pass r
        { p with services := p.services.set i r }

/-- **Lets time pass** at one stroke, and then lets happen once whatever has become due. -/
def advance (p : Plant) (ms : Nat) : Plant :=
  let p := { p with now := p.now.after ms }
  let due := p.alarms.filter (·.1 ≤ p.now.steady)
  (due.foldl (fun p a => p.ring a.2) p).settle

end Plant

end SensorGateway
