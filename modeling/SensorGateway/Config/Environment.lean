import SensorGateway.Config.Settings
import SensorGateway.Decimal.Numeral
import SensorGateway.Text.LowerCase

/-!
Settings from the environment.

Each variable belongs to one setting. A variable that is not set, or whose value cannot be read,
leaves its setting as it is. Blanks around numbers and addresses are cut; paths are taken as they
are. A flag is set by `1` and by `true` in any letter case, and cleared by every other value.
-/

set_option autoImplicit false

namespace SensorGateway.Config

/-- The variables of a process and their values. -/
abbrev Environment := List (String × String)

/-- The value of a variable. -/
def Environment.get? (env : Environment) (name : String) : Option String :=
  (env.find? (·.1 = name)).map (·.2)

/-! ## Values -/

/-- A natural number with blanks around it. -/
def naturalValue? (max : Nat) (v : String) : Option Nat :=
  Text.natural? max (Text.trimChars v.toList)

/-- A temperature with blanks around it. -/
def temperatureValue? (v : String) : Option Temperature :=
  (Decimal.Numeral.read? (Text.trim v)).map Decimal.Numeral.round

/-- **A flag is on for `1` and for `true`.** -/
def flagValue (v : String) : Bool :=
  v = "1" || v.toList.map Char.toLower = "true".toList

/-- The names of the policies, in lower case. -/
def policyValue? (v : String) : Option IdPolicy :=
  match String.ofList (Text.lowerCase v.toList) with
  | "monotonic" => some .monotonic
  | "reuse_slot" => some .reuseSlot
  | "reuseslot" => some .reuseSlot
  | _ => none

/-! ## Variables -/

/-- A variable and what its value does to the settings. -/
structure Variable where
  name : String
  apply : String → Config → Config

/-- A variable whose value may be unreadable. -/
def Variable.of {α : Type} (name : String) (read : String → Option α)
    (set : α → Config → Config) : Variable :=
  ⟨name, fun v c => match read v with
    | some x => set x c
    | none => c⟩

/-- **The variables,** in the order of the settings. -/
def settingVariables : List Variable := [
  .of "THERMGATE_BIND_HOST" (fun v => Net.IpAddress.parse? (Text.trim v))
    fun x c => { c with network.bindHost := x },
  .of "THERMGATE_PORT" (naturalValue? Text.maxWord16)
    fun x c => { c with network.port := x.toUInt16 },
  -- A limit of 0 turns the limit off.
  .of "THERMGATE_HANDSHAKE_TIMEOUT" (naturalValue? Text.maxWord64)
    fun x c => { c with network.handshakeTimeoutSecs := if x = 0 then none else some x },
  .of "THERMGATE_MAX_PER_ADDRESS" (naturalValue? Text.maxWord32)
    fun x c => { c with admission.maxPerAddress := x },
  .of "THERMGATE_MAX_ADDRESSES" (naturalValue? Text.maxWord64)
    fun x c => { c with admission.maxAddresses := x },
  .of "THERMGATE_IDLE_TIMEOUT" (naturalValue? Text.maxWord64)
    fun x c => { c with session.idleTimeoutSecs := x },
  .of "THERMGATE_REAP_INTERVAL" (naturalValue? Text.maxWord64)
    fun x c => { c with session.reapIntervalSecs := x },
  .of "THERMGATE_ID_POLICY" policyValue? fun x c => { c with session.idPolicy := x },
  ⟨"THERMGATE_DB", fun v c => { c with storage.dbPath := v }⟩,
  .of "THERMGATE_DB_RETRY_LIMIT" (naturalValue? Text.maxWord32)
    fun x c => { c with storage.retryLimit := x },
  .of "THERMGATE_DB_RETRY_DELAY" (naturalValue? Text.maxWord64)
    fun x c => { c with storage.retryDelaySecs := x },
  .of "THERMGATE_DRAIN_INTERVAL_MS" (naturalValue? Text.maxWord64)
    fun x c => { c with storage.drainIntervalMs := x },
  ⟨"THERMGATE_TLS_ENABLED", fun v c => { c with tls.enabled := flagValue v }⟩,
  ⟨"THERMGATE_TLS_CERT", fun v c => { c with tls.certPath := some v }⟩,
  ⟨"THERMGATE_TLS_KEY", fun v c => { c with tls.keyPath := some v }⟩,
  ⟨"THERMGATE_TLS_REQUIRE_CLIENT_CERT",
    fun v c => { c with tls.requireClientCert := flagValue v }⟩,
  ⟨"THERMGATE_TLS_CLIENT_CA", fun v c => { c with tls.clientCaPath := some v }⟩,
  ⟨"THERMGATE_CLIENT_TLS_ENABLED", fun v c => { c with clientTls.enabled := flagValue v }⟩,
  ⟨"THERMGATE_CLIENT_TLS_CA", fun v c => { c with clientTls.caPath := some v }⟩,
  ⟨"THERMGATE_CLIENT_TLS_CERT", fun v c => { c with clientTls.certPath := some v }⟩,
  ⟨"THERMGATE_CLIENT_TLS_KEY", fun v c => { c with clientTls.keyPath := some v }⟩,
  ⟨"THERMGATE_CLIENT_TLS_INSECURE", fun v c => { c with clientTls.insecure := flagValue v }⟩,
  ⟨"THERMGATE_SAMPLER_ENABLED", fun v c => { c with sampler.enabled := flagValue v }⟩,
  .of "THERMGATE_SAMPLER_INTERVAL" (naturalValue? Text.maxWord64)
    fun x c => { c with sampler.intervalSecs := x },
  ⟨"THERMGATE_MONITOR_ENABLED", fun v c => { c with monitor.enabled := flagValue v }⟩,
  .of "THERMGATE_HOT_THRESHOLD" temperatureValue? fun x c => { c with monitor.hotThreshold := x },
  .of "THERMGATE_COLD_THRESHOLD" temperatureValue?
    fun x c => { c with monitor.coldThreshold := x },
  -- An empty path turns the file off.
  ⟨"THERMGATE_LOG_FILE", fun v c => { c with logging.file := if v = "" then none else some v }⟩,
  ⟨"THERMGATE_METRICS_ENABLED", fun v c => { c with metrics.enabled := flagValue v }⟩,
  .of "THERMGATE_METRICS_BIND" (fun v => Net.SocketAddress.parse? (Text.trim v))
    fun x c => { c with metrics.bindAddr := x }]

/-- Applies one variable if it is set. -/
def override (env : Environment) (c : Config) (x : Variable) : Config :=
  match env.get? x.name with
  | some v => x.apply v c
  | none => c

/-- **Applies every variable that is set.** -/
def overridden (env : Environment) (c : Config) : Config :=
  settingVariables.foldl (override env) c

end SensorGateway.Config
