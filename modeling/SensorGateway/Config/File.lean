import SensorGateway.Config.Environment
import SensorGateway.Config.Validation
import SensorGateway.Yaml.Typed

/-!
Settings from a file.

The file is one document: a mapping of sections, each a mapping of settings. What is not written has
its default, and what is not known is passed over. Settings come from the defaults, then from the
file, then from the environment; the file is the one that the caller names, or else the one that the
environment names.
-/

set_option autoImplicit false

namespace SensorGateway.Config

open Yaml (SectionField Reader readSection)

/-! ## Kinds of settings -/

/-- A count of 32 bits. -/
def count32 : Reader Nat := Yaml.readNatural Text.maxWord32

/-- A count of 64 bits. -/
def count64 : Reader Nat := Yaml.readNatural Text.maxWord64

/-- A temperature in whole degrees, of 32 bits. -/
def degrees : Reader Int := Yaml.readInteger (-2147483648) 2147483647

/-- A temperature. -/
def temperature : Reader Temperature := fun d v => (Yaml.readFloat d v).map Binary.convert

/-- A path that may be unset. -/
def optionalText : Reader (Option String) := Yaml.readOptional Yaml.readText

/-- The names of the policies in a file. -/
def policyName? : String → Option IdPolicy
  | "monotonic" => some .monotonic
  | "reuse_slot" => some .reuseSlot
  | _ => none

/-! ## Sections -/

/-- The settings of the network. -/
def networkFields : List (SectionField Network) := [
  .of "bind_host" (Yaml.readTextBy Net.IpAddress.parse?) fun x s => { s with bindHost := x },
  .of "port" (Yaml.readNatural Text.maxWord16) fun x s => { s with port := x.toUInt16 },
  .of "handshake_timeout_secs" (Yaml.readOptional count64)
    fun x s => { s with handshakeTimeoutSecs := x }]

/-- The limits of admission. -/
def admissionFields : List (SectionField AdmissionLimits) := [
  .of "max_per_address" count32 fun x s => { s with maxPerAddress := x },
  .of "max_addresses" count64 fun x s => { s with maxAddresses := x }]

/-- The settings of sessions. -/
def sessionFields : List (SectionField Sessions) := [
  .of "idle_timeout_secs" count64 fun x s => { s with idleTimeoutSecs := x },
  .of "reap_interval_secs" count64 fun x s => { s with reapIntervalSecs := x },
  .of "id_policy" (Yaml.readChoice policyName?) fun x s => { s with idPolicy := x }]

/-- The settings of the database. -/
def storageFields : List (SectionField StorageSettings) := [
  .of "db_path" Yaml.readText fun x s => { s with dbPath := x },
  .of "retry_limit" count32 fun x s => { s with retryLimit := x },
  .of "retry_delay_secs" count64 fun x s => { s with retryDelaySecs := x },
  .of "drain_interval_ms" count64 fun x s => { s with drainIntervalMs := x }]

/-- The settings of encrypted inbound links. -/
def tlsFields : List (SectionField Tls) := [
  .of "enabled" Yaml.readBool fun x s => { s with enabled := x },
  .of "cert_path" optionalText fun x s => { s with certPath := x },
  .of "key_path" optionalText fun x s => { s with keyPath := x },
  .of "require_client_cert" Yaml.readBool fun x s => { s with requireClientCert := x },
  .of "client_ca_path" optionalText fun x s => { s with clientCaPath := x }]

/-- The settings of encrypted outbound links. -/
def clientTlsFields : List (SectionField ClientTls) := [
  .of "enabled" Yaml.readBool fun x s => { s with enabled := x },
  .of "ca_path" optionalText fun x s => { s with caPath := x },
  .of "cert_path" optionalText fun x s => { s with certPath := x },
  .of "key_path" optionalText fun x s => { s with keyPath := x },
  .of "insecure" Yaml.readBool fun x s => { s with insecure := x },
  .of "server_name" optionalText fun x s => { s with serverName := x }]

/-- The settings of the generator. -/
def samplerFields : List (SectionField Sampler) := [
  .of "enabled" Yaml.readBool fun x s => { s with enabled := x },
  .of "interval_secs" count64 fun x s => { s with intervalSecs := x },
  .of "min_celsius" degrees fun x s => { s with minCelsius := x },
  .of "max_celsius" degrees fun x s => { s with maxCelsius := x }]

/-- The settings of the watch over temperatures. -/
def monitorFields : List (SectionField Monitor) := [
  .of "enabled" Yaml.readBool fun x s => { s with enabled := x },
  .of "interval_secs" count64 fun x s => { s with intervalSecs := x },
  .of "history_size" count64 fun x s => { s with historySize := x },
  .of "hot_threshold" temperature fun x s => { s with hotThreshold := x },
  .of "cold_threshold" temperature fun x s => { s with coldThreshold := x }]

/-- The settings of the log. -/
def loggingFields : List (SectionField Logging) := [
  .of "filter" Yaml.readText fun x s => { s with filter := x },
  .of "file" optionalText fun x s => { s with file := x }]

/-- The settings of the metrics endpoint. -/
def metricsFields : List (SectionField Metrics) := [
  .of "enabled" Yaml.readBool fun x s => { s with enabled := x },
  .of "bind_addr" (Yaml.readTextBy Net.SocketAddress.parse?) fun x s => { s with bindAddr := x }]

/-- **All sections.** -/
def sections : List (SectionField Config) := [
  .of "network" (readSection networkFields {}) fun x c => { c with network := x },
  .of "admission" (readSection admissionFields {}) fun x c => { c with admission := x },
  .of "session" (readSection sessionFields {}) fun x c => { c with session := x },
  .of "storage" (readSection storageFields {}) fun x c => { c with storage := x },
  .of "tls" (readSection tlsFields {}) fun x c => { c with tls := x },
  .of "client_tls" (readSection clientTlsFields {}) fun x c => { c with clientTls := x },
  .of "sampler" (readSection samplerFields {}) fun x c => { c with sampler := x },
  .of "monitor" (readSection monitorFields {}) fun x c => { c with monitor := x },
  .of "logging" (readSection loggingFields {}) fun x c => { c with logging := x },
  .of "metrics" (readSection metricsFields {}) fun x c => { c with metrics := x }]

/-! ## Loading -/

/-- The settings that a text spells. An empty text spells the defaults. -/
def ofText? (text : String) : Option Config :=
  match Yaml.parse text with
  | .error _ => none
  | .ok d => match d.root with
    | none => some {}
    | some root => readSection sections {} d root

/-- The settings in a file. -/
def fromFile (disk : Disk) (path : String) : Except ConfigError Config :=
  match disk.readText path with
  | .error fault => .error (.unreadable path fault)
  | .ok text => match ofText? text with
    | some c => .ok c
    | none => .error (.malformed path "")

/-- The variable that names a file of settings. -/
def fileVariable : String := "THERMGATE_CONFIG"

/-- **Loads the settings:** defaults, then a file if one is named, then the environment. -/
def load (disk : Disk) (env : Environment) (path : Option String) : Except ConfigError Config :=
  let named := match path with
    | some p => some p
    | none => env.get? fileVariable
  match named with
  | none => .ok (overridden env {})
  | some p => match fromFile disk p with
    | .error e => .error e
    | .ok c => .ok (overridden env c)

end SensorGateway.Config
