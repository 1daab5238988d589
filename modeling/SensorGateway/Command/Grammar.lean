import SensorGateway.Net.Ipv4
import SensorGateway.Reading
import SensorGateway.Text.LowerCase

/-!
The commands of an operator.

A line is cut into words. The first word, in any letter case, names one of ten commands, each with a
fixed count of parameters; `exit` is another name for `quit`. Parameters are checked after their
count: for `connect` the port comes first, then the address, then whether the gateway itself runs on
that port.
-/

set_option autoImplicit false

namespace SensorGateway

/-- What an operator can ask for. -/
inductive Command where
  | connect (ip : Net.Ipv4) (port : UInt16)
  | terminate (sensor : SensorId)
  | log
  | clearLog
  | status
  | stats
  | readDb
  | help
  | quit
deriving DecidableEq, Repr

/-- Why a line is no command. -/
inductive CommandError where
  | empty
  | unknown (line : String)
  | wrongArity (name : String) (expected got : Nat)
  | invalidPort
  | invalidIp
  | portAlreadyRunning (port : UInt16)
  | invalidSensorId (word : String)
deriving DecidableEq, Repr

namespace CommandError

/-- The wording of an error. -/
def message : CommandError → String
  | empty => "Empty command"
  | unknown line => "Unknown command '" ++ line ++ "'"
  | wrongArity name expected got =>
    "Command '" ++ name ++ "' expects " ++ toString expected ++ " parameters, got " ++ toString got
  | invalidPort => "Invalid port number. Must be between 1 and 65535"
  | invalidIp => "Invalid ip address"
  | portAlreadyRunning port => "Port " ++ toString port ++ " already running"
  | invalidSensorId word => "Invalid sensor id '" ++ word ++ "'"

end CommandError

namespace Command

/-! ## Names -/

/-- The names and how many parameters each takes. -/
def arities : List (String × Nat) := [
  ("connect", 2), ("terminate", 1), ("log", 0), ("clearlog", 0), ("status", 0), ("stats", 0),
  ("readdb", 0), ("help", 0), ("quit", 0), ("exit", 0)]

/-- A word in lower case. -/
def lowered (word : String) : String := String.ofList (Text.lowerCase word.toList)

/-- The name that a word spells, with its arity. -/
def nameOf? (word : String) : Option (String × Nat) := arities.find? (·.1 = lowered word)

/-! ## Parameters -/

/-- The two parameters of `connect`. -/
def parseConnect (ip port : String) (runningPort : UInt16) : Except CommandError Command :=
  match Text.integer? Text.minSigned64 Text.maxSigned64 port.toList with
  | none => .error .invalidPort
  | some p =>
    if 1 ≤ p && p ≤ 65535 then
      let p := p.toNat.toUInt16
      match Net.Ipv4.parse? ip with
      | none => .error .invalidIp
      | some ip => if p = runningPort then .error (.portAlreadyRunning p) else .ok (connect ip p)
    else .error .invalidPort

/-- The parameter of `terminate`. -/
def parseTerminate (word : String) : Except CommandError Command :=
  match SensorId.parse? word with
  | some id => .ok (terminate id)
  | none => .error (.invalidSensorId word)

/-- The command of a name whose parameters have the right count. -/
def ofName (name : String) (args : List String) (runningPort : UInt16) :
    Except CommandError Command :=
  match name, args with
  | "connect", [ip, port] => parseConnect ip port runningPort
  | "terminate", [word] => parseTerminate word
  | "log", _ => .ok log
  | "clearlog", _ => .ok clearLog
  | "status", _ => .ok status
  | "stats", _ => .ok stats
  | "readdb", _ => .ok readDb
  | "help", _ => .ok help
  | _, _ => .ok quit

/-- **Reads a line.** An unknown name is shown with the whole line, without the blanks around it. -/
def parse (line : String) (runningPort : UInt16) : Except CommandError Command :=
  match Text.words line with
  | [] => .error .empty
  | first :: args =>
    match nameOf? first with
    | none => .error (.unknown (Text.trim line))
    | some (name, arity) =>
      if args.length ≠ arity then .error (.wrongArity name arity args.length)
      else ofName name args runningPort

/-- The answer to `help`. -/
def helpText : String := "
Available commands:
  connect <ip> <port>     Open an outbound link to a sensor node
  terminate <sensor_id>   Close a sensor session
  stats                   List active connections
  status                  Show gateway status and resource usage
  readdb                  Print persisted readings
  log                     Print the log file
  clearlog                Truncate the log file
  help                    Show this help
  quit, exit              Stop the gateway
"

end Command

end SensorGateway
