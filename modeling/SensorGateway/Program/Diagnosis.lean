import SensorGateway.Config.Validation
import SensorGateway.GatewayError
import SensorGateway.Text.Quoted

/-!
Why the program gave up.

The last line of a program that gives up names the cause as a term: the kind of the cause, and what
is known of it between brackets. Texts in a term are quoted.
-/

set_option autoImplicit false

namespace SensorGateway.Program

/-- Why the program gave up. -/
inductive Failure where
  /-- The settings cannot be used. -/
  | config (e : ConfigError)
  /-- The log cannot be opened. -/
  | log (fault : OsFault)
  /-- The gateway cannot be made, or cannot listen. -/
  | gateway (e : GatewayError)
  /-- The database is out of reach for good. -/
  | storage (e : Storage.StorageError)
deriving DecidableEq, Repr

/-- The kinds of the faults of the system, by their numbers. -/
def osFaultKinds : List (Int × String) := [
  (1, "PermissionDenied"), (2, "NotFound"), (13, "PermissionDenied"), (17, "AlreadyExists"),
  (20, "NotADirectory"), (21, "IsADirectory"), (22, "InvalidInput"), (28, "StorageFull"),
  (30, "ReadOnlyFilesystem"), (36, "InvalidFilename"), (40, "FilesystemLoop"),
  (98, "AddrInUse"), (99, "AddrNotAvailable"), (101, "NetworkUnreachable"),
  (111, "ConnectionRefused")]

/-- The kind of a fault of the system. -/
def osFaultKind (fault : OsFault) : String :=
  ((osFaultKinds.find? (·.1 = fault.code)).map (·.2)).getD "Uncategorized"

/-- A term with named parts. -/
def namedTerm (kind : String) (parts : List (String × String)) : String :=
  kind ++ " \x7b " ++ ", ".intercalate (parts.map fun p => p.1 ++ ": " ++ p.2) ++ " \x7d"

/-- The term of a fault of the system. -/
def osTerm (fault : OsFault) : String :=
  namedTerm "Os" [("code", toString fault.code), ("kind", osFaultKind fault),
    ("message", Text.quoted fault.reason)]

/-- The kind of a fault that the system has no number for. -/
def ioFaultKind : IoFault → String
  | .os fault => osFaultKind fault
  | .invalidUtf8 => "InvalidData"
  | .earlyEof => "UnexpectedEof"
  | .timedOut _ => "TimedOut"

/-- The term of a fault in reading or writing. -/
def ioTerm : IoFault → String
  | .os fault => osTerm fault
  | fault =>
    namedTerm "Error" [("kind", ioFaultKind fault), ("message", Text.quoted fault.message)]

/-- The term of unusable settings. -/
def configTerm : ConfigError → String
  | .unreadable path fault => "IoError(" ++ Text.quoted path ++ ", " ++ ioTerm fault ++ ")"
  | .malformed path reason =>
    "ParseError(" ++ Text.quoted path ++ ", " ++ Text.quoted reason ++ ")"
  | .invalid rule => "ValidationError(" ++ Text.quoted rule ++ ")"

/-- The term of an error of the queue. -/
def storageTerm : Storage.StorageError → String
  | .retryLimitReached attempts =>
    namedTerm "RetryLimitReached" [("attempts", toString attempts)]
  | .notConnected => "NotConnected"
  | .database fault => "Sqlite(" ++ Text.quoted fault.message ++ ")"
  | .transactionAborted fault => "TransactionAborted(" ++ Text.quoted fault.message ++ ")"

/-- The term of an error of the gateway. -/
def gatewayTerm : GatewayError → String
  | .io fault => "Io(" ++ ioTerm fault ++ ")"
  | .protocol fault => "Protocol(" ++ Text.quoted fault.message ++ ")"
  | .storage e => "Storage(" ++ storageTerm e ++ ")"
  | .rejected e => "Rejected(" ++ Text.quoted e.message ++ ")"
  | .tlsConfig words => "TlsConfig(" ++ Text.quoted words ++ ")"
  | .tlsHandshake words => "TlsHandshake(" ++ Text.quoted words ++ ")"

/-- **The term of a failure.** -/
def Failure.term : Failure → String
  | config e => configTerm e
  | log fault => osTerm fault
  | gateway e => gatewayTerm e
  | storage e => storageTerm e

/-- The last line of a program that gives up. -/
def Failure.line (f : Failure) : String := "Error: " ++ f.term ++ "\n"

end SensorGateway.Program
