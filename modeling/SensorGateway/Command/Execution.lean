import SensorGateway.Command.Grammar
import SensorGateway.Command.Listing
import SensorGateway.Gateway.Basic
import SensorGateway.Storage.File

/-!
Carrying out commands.

Every command but `connect`, which needs a network, acts on the gateway and the disk alone. It
answers with a text to show, or with nothing if the gateway is to stop.
-/

set_option autoImplicit false

namespace SensorGateway.Gateway

/-- Why a command could not be carried out. -/
inductive CommandFault where
  | io (fault : IoFault)
  | storage (fault : Storage.StorageError)
  | gateway (fault : GatewayError)
deriving DecidableEq, Repr

/-- The wording of a fault. -/
def CommandFault.message : CommandFault → String
  | io fault => fault.message
  | storage fault => fault.message
  | gateway fault => fault.message

/-! ## Texts -/

/-- The lines of a status report. It ends with two more, on the memory in use and on the number of
cores; these are about the machine and not about the gateway, and are left out. -/
def statusLines (g : Gateway) : List String := [
  "[System Status]",
  "Active connections       : " ++ toString g.table.activeCount,
  "Total messages received  : " ++ toString g.queue.delivered ++ " (live buffer: "
    ++ toString g.queue.pending.length ++ ")",
  "Database                 : " ++ g.queue.status.text]

/-- The frame around the log. -/
def logText (path content : String) : String :=
  "=== Log File (" ++ path ++ ") ===\n" ++ content ++ "=== End of Log ==="

/-- What a log is cleared to. -/
def clearedText (seconds : Int) : String :=
  "=== Log file cleared at " ++ toString seconds ++ " ===\n"

/-- The answer of commands on the log when there is none. -/
def noLogText : String := "File logging is disabled"

/-! ## Commands -/

/-- What a command does: its answer, the gateway and the disk after it, and what it told the log. -/
abbrev Execution := Except CommandFault (Option String) × Gateway × Disk × List Notice

/-- Closes the session of a sensor. -/
def terminate (g : Gateway) (d : Disk) (id : SensorId) : Execution :=
  match g.table.remove id with
  | (some _, t) =>
    (.ok (some ("Sensor " ++ id.text ++ " terminated")), { g with table := t }.showActive, d,
      [.sensorLeft id])
  | (none, _) => (.ok (some ("Sensor " ++ id.text ++ " not found")), g, d, [])

/-- Prints the readings of the database. -/
def readDatabase (g : Gateway) (d : Disk) : Execution :=
  match g.queue.readAll d with
  | .ok rows => (.ok (some (Listing.readings rows)), g, d, [])
  | .error .notConnected => (.ok (some "Database not connected."), g, d, [.databaseNotPrinted])
  | .error e => (.error (.storage e), g, d, [])

/-- Prints the log. -/
def printLog (g : Gateway) (d : Disk) : Execution :=
  match g.config.logging.file with
  | none => (.ok (some noLogText), g, d, [])
  | some path =>
    match d.readText path with
    | .ok content => (.ok (some (logText path content)), g, d, [])
    | .error fault => (.error (.io fault), g, d, [])

/-- Clears the log down to one line that says so. -/
def clearLog (g : Gateway) (d : Disk) (now : Moment) : Execution :=
  match g.config.logging.file with
  | none => (.ok (some noLogText), g, d, [])
  | some path =>
    match d.write path (Text.utf8 (clearedText now.seconds)) with
    | .ok d => (.ok (some "Log cleared"), g, d, [.logCleared])
    | .error fault => (.error (.io (.os fault)), g, d, [])

/-- **Carries out a command.** `connect` is carried out where the network is. -/
def execute (g : Gateway) (d : Disk) (now : Moment) : Command → Execution
  | .quit => (.ok none, g, d, [])
  | .help => (.ok (some Command.helpText), g, d, [])
  | .connect .. => (.ok none, g, d, [])
  | .terminate id => g.terminate d id
  | .stats => (.ok (some (Listing.sessions g.table.activeCount g.table.sessions)), g, d, [])
  | .status => (.ok (some ("\n".intercalate g.statusLines)), g, d, [])
  | .readDb => g.readDatabase d
  | .log => g.printLog d
  | .clearLog => g.clearLog d now

end SensorGateway.Gateway
