import SensorGateway.Program.Console
import SensorGateway.Program.Diagnosis
import SensorGateway.Program.Request

/-!
A run of the program, from its arguments to its exit code.

The settings come first, then the log, the credentials and the port, and the first that cannot be had
ends the run. Then everything is started. With a console the run lasts until the console is over;
without one it lasts until the database is given up or somebody interrupts it.
-/

set_option autoImplicit false

namespace SensorGateway.Program

/-- What a run is given. -/
structure Invocation where
  arguments : List String := []
  environment : Config.Environment := []
  disk : Disk := {}
  /-- Everything that the operator types. -/
  input : List UInt8 := []
  /-- Ports that other programs listen on. -/
  takenPorts : List UInt16 := []
  /-- Whether somebody interrupts the run as soon as it can be interrupted. -/
  interrupted : Bool := false
deriving DecidableEq

/-- What a run comes to. -/
structure Outcome where
  code : Nat := 0
  output : String := ""
  errors : String := ""
  /-- The disk after the run. -/
  disk : Disk := {}
deriving DecidableEq

/-! ## Getting ready -/

/-- The settings of a run. -/
def settings (i : Invocation) (o : Options) : Except ConfigError Config := do
  let c ← Config.load i.disk i.environment o.configPath
  let c := { c with network := { c.network with port := o.port.getD c.network.port } }
  c.validate
  return c

/-- Opens the log, where there is to be one. -/
def openLog (d : Disk) (c : Config) : Except OsFault Disk :=
  match c.logging.file with
  | some path => d.touch path
  | none => .ok d

/-- Finds out whether the gateway can listen. -/
def listen (i : Invocation) (c : Config) : Except GatewayError Unit :=
  if i.takenPorts.contains c.network.port then .error (.io (.os .addressInUse)) else .ok ()

/-- **A plant that is ready to be started,** or the first thing that cannot be had. -/
def prepare (i : Invocation) (o : Options) : Except Failure Plant := do
  let c ← (settings i o).mapError .config
  let d ← (openLog i.disk c).mapError .log
  let g ← (Gateway.build d c).mapError .gateway
  (listen i c).mapError .gateway
  return { gateway := g, disk := d, now := ⟨0, 0⟩, routed := true }

/-! ## Running -/

/-- The services of a run, in the order in which they are started. -/
def servicesOf (c : Config) : List Plant.Service :=
  [.gateway, .reaper, .sampler, .monitor] ++ (if c.metrics.enabled then [.metrics] else [])
    ++ [.worker]

/-- **Starts everything.** -/
def startAll (p : Plant) : Plant :=
  (servicesOf p.gateway.config).foldl (fun p s => p.start s p.gateway.config.network.port) p

/-- The error that the storage worker has ended with. -/
def workerFailure? (p : Plant) : Option Storage.StorageError :=
  p.services.findSome? fun r => match r.service, r.ending with
    | .worker, some (.failed e) => some e
    | _, _ => none

/-- Lets the worker try again to reach its database, `tries` times at most. -/
def retry (p : Plant) : Nat → Plant
  | 0 => p
  | tries + 1 =>
    if (workerFailure? p).isSome || p.gateway.queue.status = .connected then p
    else retry (p.advance p.gateway.queue.settings.retryDelay) tries

/-- **Runs without a console,** until the run is interrupted or the database is given up. The retry
limit bounds how often that can be tried. -/
def runUnattended (p : Plant) (interrupted : Bool) : Plant :=
  if interrupted then p else retry p p.gateway.queue.settings.retryLimit

/-- What a started plant comes to. -/
def finishRun (output : String) (p : Plant) : Outcome :=
  let p := p.stop
  match workerFailure? p with
  | some e => { code := 1, output := output, errors := (Failure.storage e).line, disk := p.disk }
  | none => { output := output, disk := p.disk }

/-- Serves with the given options. -/
def serve (i : Invocation) (o : Options) : Outcome :=
  match prepare i o with
  | .error f => { code := 1, errors := f.line, disk := i.disk }
  | .ok p =>
    let p := startAll p
    if o.console then
      let (text, p) := transcript p i.input
      finishRun text p
    else finishRun "" (runUnattended p i.interrupted)

/-- **A run of the program.** Arguments that make no sense have an exit code of their own. -/
def run (i : Invocation) : Outcome :=
  match Request.parse? i.environment i.arguments with
  | none => { code := 2, errors := usageText, disk := i.disk }
  | some .help => { output := helpText i.environment, disk := i.disk }
  | some .version => { output := versionText, disk := i.disk }
  | some (.serve o) => serve i o

/-! ## What a run needs -/

/-- Whether a run reads what the operator types. -/
def readsInput (i : Invocation) : Bool :=
  match Request.parse? i.environment i.arguments with
  | some (.serve o) => o.console
  | _ => false

/-- The files that a run reads, as far as that can be told from the disk so far: the file of
settings, and the files that the settings name. -/
def pathsOf (i : Invocation) : List String :=
  match Request.parse? i.environment i.arguments with
  | some (.serve o) =>
    let named := match settings i o with
      | .ok c => [c.logging.file, c.tls.certPath, c.tls.keyPath, c.tls.clientCaPath,
          c.clientTls.caPath, c.clientTls.certPath, c.clientTls.keyPath]
      | .error _ => []
    (o.configPath :: named).filterMap id
  | _ => []

end SensorGateway.Program
