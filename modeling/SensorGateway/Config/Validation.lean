import SensorGateway.Config.Settings

/-!
What settings have to obey together.
-/

set_option autoImplicit false

namespace SensorGateway

/-- Why settings cannot be used. -/
inductive ConfigError where
  /-- The file cannot be read. -/
  | unreadable (path : String) (fault : IoFault)
  /-- The file holds no settings. -/
  | malformed (path : String) (reason : String)
  /-- The settings contradict a rule. -/
  | invalid (rule : String)
deriving DecidableEq, Repr

namespace ConfigError

/-- The wording of an error. -/
def message : ConfigError → String
  | unreadable path fault =>
    "failed to read config file '" ++ path ++ "': " ++ fault.message
  | malformed path reason => "failed to parse config file '" ++ path ++ "': " ++ reason
  | invalid rule => "configuration validation failed: " ++ rule

end ConfigError

namespace Config

/-- The rules for encrypted inbound links. -/
def Tls.brokenRule? (t : Tls) : Option String :=
  if !t.enabled then none
  else if t.certPath.isNone then some "TLS enabled but cert_path not set"
  else if t.keyPath.isNone then some "TLS enabled but key_path not set"
  else if t.requireClientCert && t.clientCaPath.isNone then
    some "mTLS enabled but client_ca_path not set"
  else none

/-- **The first rule that the settings break.** -/
def brokenRule? (c : Config) : Option String :=
  if c.network.port = 0 then some "network.port must be between 1 and 65535"
  else if c.admission.maxPerAddress = 0 then some "admission.max_per_address must be at least 1"
  else if c.storage.retryLimit = 0 then some "storage.retry_limit must be at least 1"
  else if c.sampler.maxCelsius ≤ c.sampler.minCelsius then
    some ("sampler range is empty: " ++ toString c.sampler.minCelsius ++ ".."
      ++ toString c.sampler.maxCelsius)
  else if c.monitor.historySize = 0 then some "monitor.history_size must be at least 1"
  else c.tls.brokenRule?

/-- Accepts settings that break no rule. -/
def validate (c : Config) : Except ConfigError Unit :=
  match c.brokenRule? with
  | some rule => .error (.invalid rule)
  | none => .ok ()

/-- `validate` for the section of inbound links alone. -/
def Tls.validate (t : Tls) : Except ConfigError Unit :=
  match t.brokenRule? with
  | some rule => .error (.invalid rule)
  | none => .ok ()

end Config

end SensorGateway
