import SensorGateway.Disk
import SensorGateway.Handshake.Record
import SensorGateway.Session.Table
import SensorGateway.Storage.Fault

/-!
The errors of the gateway as a whole: each is the cause that a part of it met.
-/

set_option autoImplicit false

namespace SensorGateway

/-- Why a link, a command or the start of the gateway failed. -/
inductive GatewayError where
  | io (fault : IoFault)
  | protocol (fault : Handshake.RecordError)
  | storage (fault : Storage.StorageError)
  | rejected (fault : InsertError)
  | tlsConfig (words : String)
  | tlsHandshake (words : String)
deriving DecidableEq, Repr

namespace GatewayError

/-- The wording of an error. -/
def message : GatewayError → String
  | io fault => "I/O error: " ++ fault.message
  | protocol fault => "protocol error: " ++ fault.message
  | storage fault => "storage error: " ++ fault.message
  | rejected fault => "session rejected: " ++ fault.message
  | tlsConfig words => "TLS configuration error: " ++ words
  | tlsHandshake words => "TLS handshake failed: " ++ words

/-- **An error is fatal if going on is useless:** unusable credentials, or a database given up. -/
def isFatal : GatewayError → Bool
  | storage fault => fault.isFatal
  | tlsConfig _ => true
  | _ => false

end GatewayError

end SensorGateway
