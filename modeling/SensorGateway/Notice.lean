import SensorGateway.Decimal.Fixed
import SensorGateway.GatewayError

/-!
What the gateway tells its log.

A notice is the thing that happened; its line is made from it in one place. So a law about what the
gateway reports is a law about data, and no component spells words of its own.
-/

set_option autoImplicit false

namespace SensorGateway

/-- How much a notice matters. -/
inductive Level where
  | info
  | warn
  | error
deriving DecidableEq, Repr

/-- The word for a level. -/
def Level.text : Level → String
  | info => "INFO"
  | warn => "WARN"
  | error => "ERROR"

/-- The loops of the gateway that have nothing to add to "stopped". -/
inductive Loop where
  | reaper
  | sampler
  | monitor
  | worker
deriving DecidableEq, Repr

/-- The name of a loop. -/
def Loop.text : Loop → String
  | reaper => "Reaper"
  | sampler => "Sampler"
  | monitor => "Threshold monitor"
  | worker => "Storage worker"

/-- Something that happened. -/
inductive Notice where
  | connectedDatabase (path : String)
  | closedDatabase
  | openFailed (path : String) (attempt limit : Nat) (fault : Storage.Fault)
  | openGivenUp (path : String) (fault : Storage.Fault)
  | persistFailed (sensor : SensorId) (fault : Storage.Fault)
  | drainFailed (fault : Storage.StorageError)
  | workerStarted (path : String) (interval : Nat)
  | workerRetries (delay attempt limit : Nat)
  | workerFailed (fault : Storage.StorageError)
  | workerGaveUp (fault : Storage.StorageError)
  | flushed (count : Nat)
  | notPersisted (count : Nat)
  | timedOut (sensor : SensorId)
  | sensorLeft (sensor : SensorId)
  | sensorCame (sensor : SensorId)
  | cameIn (reported : String) (port : UInt16) (sensor : SensorId) (tls : Bool)
  | wentOut (ip : String) (port : UInt16) (sensor : SensorId) (tls : Bool)
  | connecting (ip : String) (port : UInt16)
  | turnedAway (address : String)
  | handshakeFailed (peer : String) (fault : GatewayError)
  | otherAddress (peer reported observed : String)
  | sessionRejected (peer : String) (fault : InsertError)
  | socketFailed (peer : String) (sensor : SensorId) (fault : OsFault)
  | listening (address : String) (tls : Bool)
  | acceptFailed (fault : OsFault)
  | gatewayStopped (closed : Nat)
  | reaperStarted (interval timeout : Nat)
  | samplerStarted (interval : Nat)
  | samplerDisabled
  | monitorStarted (hot cold : Temperature)
  | monitorDisabled
  | overheating (sensor : SensorId) (average : Temperature)
  | overcooling (sensor : SensorId) (average : Temperature)
  | stopped (loop : Loop)
  | metricsListening (address : String)
  | metricsAcceptFailed (fault : OsFault)
  | metricsStopped
  | databaseNotPrinted
  | logCleared
deriving DecidableEq, Repr

namespace Notice

/-- The mark of a link over TLS. -/
def tlsMark (tls : Bool) : String := if tls then " (TLS)" else ""

/-- The peer that a notice is about, in front of it. -/
def about (peer : String) : String := "[" ++ peer ++ "] "

/-- The end of a notice about a link that has come to be. -/
def linkText (ip : String) (port : UInt16) (sensor : SensorId) (tls : Bool) : String :=
  ip ++ " port: " ++ toString port ++ " (ID: " ++ sensor.text ++ ")" ++ tlsMark tls

/-- How much a notice matters. -/
def level : Notice → Level
  | openFailed .. | drainFailed _ | workerFailed _ | notPersisted _ | turnedAway _
  | handshakeFailed .. | otherAddress .. | sessionRejected .. | socketFailed .. | overheating ..
  | overcooling .. | databaseNotPrinted => .warn
  | openGivenUp .. | persistFailed .. | workerGaveUp _ | acceptFailed _
  | metricsAcceptFailed _ => .error
  | _ => .info

/-- **The words of a notice.** -/
def message : Notice → String
  | connectedDatabase path => "Connected to SQL database " ++ path
  | closedDatabase => "Closed SQL database connection"
  | openFailed path attempt limit fault =>
    "Failed to open database " ++ path ++ " (attempt " ++ toString attempt ++ "/" ++ toString limit
      ++ "): " ++ (Storage.StorageError.database fault).message
  | openGivenUp path fault =>
    "Max retry attempts reached opening " ++ path ++ ": "
      ++ (Storage.StorageError.database fault).message
  | persistFailed sensor fault =>
    "Failed to persist reading from sensor " ++ sensor.text ++ ": " ++ fault.message
  | drainFailed fault => "Drain failed, dropping database connection: " ++ fault.message
  | workerStarted path interval =>
    "Storage worker started (db=" ++ path ++ ", drain_interval=" ++ durationText interval ++ ")"
  | workerRetries delay attempt limit =>
    "Retrying database connection in " ++ durationText delay ++ " (attempt " ++ toString attempt
      ++ "/" ++ toString limit ++ ")"
  | workerFailed fault => "Storage cycle failed: " ++ fault.message
  | workerGaveUp fault => "Storage worker giving up: " ++ fault.message
  | flushed count => "Flushed " ++ toString count ++ " readings on shutdown"
  | notPersisted count => toString count ++ " readings were not persisted"
  | timedOut sensor => "[TIMEOUT] Sensor ID " ++ sensor.text ++ " disconnected due to inactivity"
  | sensorLeft sensor => "A sensor node with " ++ sensor.text ++ " has closed the connection"
  | sensorCame sensor => "A sensor node with " ++ sensor.text ++ " has opened a new connection"
  | cameIn reported port sensor tls => "New connection ip:" ++ linkText reported port sensor tls
  | wentOut ip port sensor tls => "Outbound connection ip:" ++ linkText ip port sensor tls
  | connecting ip port => "Connecting to " ++ ip ++ ":" ++ toString port
  | turnedAway address => "Connection from " ++ address ++ " rejected: connection limit reached"
  | handshakeFailed peer fault => about peer ++ "Handshake failed: " ++ fault.message
  | otherAddress peer reported observed =>
    about peer ++ "Self-reported address " ++ reported ++ " does not match observed address "
      ++ observed
  | sessionRejected peer fault => about peer ++ "Session rejected: " ++ fault.message
  | socketFailed peer sensor fault =>
    about peer ++ "Socket error on sensor " ++ sensor.text ++ ": " ++ fault.message
  | listening address tls =>
    "Gateway listening on " ++ address ++ (if tls then " (TLS)" else " (plain)")
  | acceptFailed fault => "Accept error: " ++ fault.message
  | gatewayStopped closed => "Gateway stopped, closed " ++ toString closed ++ " sessions"
  | reaperStarted interval timeout =>
    "Reaper started (interval=" ++ durationText interval ++ ", idle_timeout="
      ++ durationText timeout ++ ")"
  | samplerStarted interval => "Sampler started (interval=" ++ durationText interval ++ ")"
  | samplerDisabled => "Sampler is disabled"
  | monitorStarted hot cold =>
    "Threshold monitor started (hot=" ++ Decimal.fixed 1 hot ++ ", cold=" ++ Decimal.fixed 1 cold
      ++ ")"
  | monitorDisabled => "Threshold monitor is disabled"
  | overheating sensor average =>
    "Sensor " ++ sensor.text ++ " reports overheating (avg temp: " ++ Decimal.fixed 1 average ++ ")"
  | overcooling sensor average =>
    "Sensor " ++ sensor.text ++ " reports overcooling (avg temp: " ++ Decimal.fixed 1 average ++ ")"
  | stopped loop => loop.text ++ " stopped"
  | metricsListening address => "Metrics server listening on http://" ++ address ++ "/metrics"
  | metricsAcceptFailed fault => "Metrics server accept error: " ++ fault.message
  | metricsStopped => "Metrics server shutting down"
  | databaseNotPrinted => "Cannot print DB. SQL not connected."
  | logCleared => "Log file has been cleared"

/-- The line of a notice. -/
def line (n : Notice) : String := n.level.text ++ " " ++ n.message

end Notice

end SensorGateway
