import SensorGateway.Net.Address
import SensorGateway.Session.Basic
import SensorGateway.Storage.Queue

/-!
The settings of the gateway, section by section, with their defaults.

A setting that is optional is unset or has a value. Numbers keep the range of their kind: a count of
32 or 64 bits is a natural number that the readers of files and of the environment bound.
-/

set_option autoImplicit false

namespace SensorGateway.Config

/-! ## Sections -/

/-- Where the gateway listens, and how long a node may take to introduce itself. -/
structure Network where
  bindHost : Net.IpAddress := .unspecified
  port : UInt16 := 8080
  /-- Unset means no limit. -/
  handshakeTimeoutSecs : Option Nat := none
deriving DecidableEq, Repr

/-- Limits of admission. -/
structure AdmissionLimits where
  maxPerAddress : Nat := 5
  maxAddresses : Nat := 256
deriving DecidableEq, Repr

/-- The life of a session. -/
structure Sessions where
  idleTimeoutSecs : Nat := 30
  reapIntervalSecs : Nat := 5
  idPolicy : IdPolicy := .monotonic
deriving DecidableEq, Repr

/-- The database. -/
structure StorageSettings where
  dbPath : String := "sensor_data.db"
  retryLimit : Nat := 3
  retryDelaySecs : Nat := 5
  drainIntervalMs : Nat := 1000
deriving DecidableEq, Repr

/-- Encryption of inbound links. -/
structure Tls where
  enabled : Bool := true
  certPath : Option String := some "cert.pem"
  keyPath : Option String := some "key.pem"
  requireClientCert : Bool := false
  clientCaPath : Option String := none
deriving DecidableEq, Repr

/-- Encryption of outbound links. -/
structure ClientTls where
  enabled : Bool := true
  caPath : Option String := none
  certPath : Option String := none
  keyPath : Option String := none
  insecure : Bool := true
  serverName : Option String := none
deriving DecidableEq, Repr

/-- The generator of readings. -/
structure Sampler where
  enabled : Bool := true
  intervalSecs : Nat := 3
  /-- The least temperature generated. -/
  minCelsius : Int := 0
  /-- The first temperature that is too high to be generated. -/
  maxCelsius : Int := 50
deriving DecidableEq, Repr

/-- The watch over temperatures. -/
structure Monitor where
  enabled : Bool := true
  intervalSecs : Nat := 1
  historySize : Nat := 5
  hotThreshold : Temperature := Binary.ofInt 50
  coldThreshold : Temperature := Binary.ofInt 10
deriving DecidableEq, Repr

/-- The log. -/
structure Logging where
  filter : String := "info"
  file : Option String := some "gateway.log"
deriving DecidableEq, Repr

/-- The metrics endpoint. -/
structure Metrics where
  enabled : Bool := false
  bindAddr : Net.SocketAddress := ⟨.unspecified, 0, 9090⟩
deriving DecidableEq, Repr

end Config

/-- Everything that can be set. -/
structure Config where
  network : Config.Network := {}
  admission : Config.AdmissionLimits := {}
  session : Config.Sessions := {}
  storage : Config.StorageSettings := {}
  tls : Config.Tls := {}
  clientTls : Config.ClientTls := {}
  sampler : Config.Sampler := {}
  monitor : Config.Monitor := {}
  logging : Config.Logging := {}
  metrics : Config.Metrics := {}
deriving DecidableEq, Repr

namespace Config

/-! ## What components are built from -/

/-- The address that the gateway listens on. -/
def Network.bindAddr (n : Network) : Net.SocketAddress := ⟨n.bindHost, 0, n.port⟩

/-- The limit of a handshake in milliseconds. -/
def Network.handshakeLimit (n : Network) : Option Nat := n.handshakeTimeoutSecs.map (· * 1000)

/-- **The settings of the queue.** A retry limit of 0 would never be reached, so it counts as 1. -/
def StorageSettings.queueSettings (s : StorageSettings) : Storage.QueueSettings where
  path := s.dbPath
  retryLimit := max s.retryLimit 1
  retryDelay := s.retryDelaySecs * 1000
  drainInterval := s.drainIntervalMs

/-- Inbound links without encryption and without credentials. -/
def Tls.disabled : Tls :=
  { enabled := false, certPath := none, keyPath := none, requireClientCert := false,
    clientCaPath := none }

end Config

end SensorGateway
