import SensorGateway.Config.File
import SensorGateway.Proofs.Command.Grammar

/-!
The fields of the settings.

A field is known by three names: a place in the settings, a key in a section of a file, and, for
most fields, a variable of the environment. `fields` has one line for each field with all that is
known of it, so that what holds of every field can be said once.

A field can be looked up and replaced (`Field.get`, `Field.set`). What makes a place a field is that
replacing one leaves all others as they are (`independent_fields`), and that the fields together are
everything there is (`ext_fields`). The variables are those of the fields and no others
(`settingVariables_eq`).
-/

set_option autoImplicit false

namespace SensorGateway.Config

open Text

/-! ## How values are written -/

/-- **How the values of a field are written in a variable:** which texts stand for which values. The
reader finds just these, and there is a choice between two values at least. -/
structure Spelling (α : Type) where
  read? : String → Option α
  Spells : String → α → Prop
  read?_eq_some_iff : ∀ {v : String} {x : α}, read? v = some x ↔ Spells v x
  choice : ∃ v w x y, read? v = some x ∧ read? w = some y ∧ x ≠ y

namespace Spelling

/-- What stands between the blanks around a text, read by a function. -/
def trimmed {α : Type} (f : String → Option α)
    (choice : ∃ v w x y, f (trim v) = some x ∧ f (trim w) = some y ∧ x ≠ y) : Spelling α where
  read? v := f (trim v)
  Spells v x := ∃ t, TrimsTo v t ∧ f t = some x
  read?_eq_some_iff {v x} := by
    constructor
    · exact fun h => ⟨trim v, trim_eq_iff.mp rfl, h⟩
    · rintro ⟨t, htrims, h⟩
      rwa [trim_eq_iff.mpr htrims]
  choice := choice

/-- The reader of natural numbers finds one exactly where it is spelled between the blanks. -/
theorem naturalValue?_eq_some_iff {max n : Nat} {v : String} :
    naturalValue? max v = some n ↔ ∃ t, TrimsTo v t ∧ IsNatural t.toList n ∧ n ≤ max := by
  have hchars : trimChars v.toList = (trim v).toList := String.toList_ofList.symm
  rw [naturalValue?, hchars, natural?_eq_some_iff]
  constructor
  · exact fun h => ⟨trim v, trim_eq_iff.mp rfl, h⟩
  · rintro ⟨t, htrims, h⟩
    rwa [trim_eq_iff.mpr htrims]

/-- **A natural number of at most `max`,** with blanks around it. -/
def number (max : Nat) (hmax : 1 ≤ max := by decide) : Spelling Nat where
  read? := naturalValue? max
  Spells v n := ∃ t, TrimsTo v t ∧ IsNatural t.toList n ∧ n ≤ max
  read?_eq_some_iff := naturalValue?_eq_some_iff
  choice := by
    have hzero : naturalValue? max "0" = some 0 :=
      naturalValue?_eq_some_iff.mpr ⟨"0", trim_eq_iff.mp (by decide),
        ⟨_, Or.inl rfl, digits?_eq_some_iff.mp (by decide)⟩, Nat.zero_le max⟩
    have hone : naturalValue? max "1" = some 1 :=
      naturalValue?_eq_some_iff.mpr ⟨"1", trim_eq_iff.mp (by decide),
        ⟨_, Or.inl rfl, digits?_eq_some_iff.mp (by decide)⟩, hmax⟩
    exact ⟨"0", "1", 0, 1, hzero, hone, Nat.zero_ne_one⟩

/-- The text itself. -/
def verbatim : Spelling String where
  read? v := some v
  Spells v x := x = v
  read?_eq_some_iff := by
    intro v x
    rw [Option.some.injEq, eq_comm]
  choice := ⟨"", "0", "", "0", rfl, rfl, by decide⟩

/-- A value that is made from another one. -/
def map {α β : Type} (s : Spelling α) (f : α → β)
    (choice : ∃ v w x y, s.read? v = some x ∧ s.read? w = some y ∧ f x ≠ f y) : Spelling β where
  read? v := (s.read? v).map f
  Spells v y := ∃ x, s.Spells v x ∧ f x = y
  read?_eq_some_iff := by
    intro v y
    simp only [Option.map_eq_some_iff, s.read?_eq_some_iff]
  choice := by
    obtain ⟨v, w, x, y, hx, hy, hne⟩ := choice
    exact ⟨v, w, f x, f y, by rw [hx]; rfl, by rw [hy]; rfl, hne⟩

/-- A port. -/
def port : Spelling UInt16 :=
  (number maxWord16).map Nat.toUInt16 ⟨"0", "1", 0, 1, by decide, by decide, by decide⟩

/-- **A limit in seconds,** where zero stands for no limit. -/
def limit : Spelling (Option Nat) :=
  (number maxWord64).map (fun n => if n = 0 then none else some n)
    ⟨"0", "1", 0, 1, by decide, by decide, by decide⟩

/-- A path, which is then set. -/
def path : Spelling (Option String) :=
  verbatim.map some ⟨"", "0", "", "0", rfl, rfl, by decide⟩

/-- **A path,** where the empty one stands for none. -/
def pathUnlessEmpty : Spelling (Option String) :=
  verbatim.map (fun v => if v = "" then none else some v) ⟨"", "0", "", "0", rfl, rfl, by decide⟩

/-- The address of a host, with blanks around it. -/
def host : Spelling Net.IpAddress :=
  trimmed Net.IpAddress.parse?
    ⟨"0.0.0.0", "0.0.0.1", .v4 ⟨0, 0, 0, 0⟩, .v4 ⟨0, 0, 0, 1⟩, by decide, by decide, by decide⟩

/-- The address of a socket, with blanks around it. -/
def socket : Spelling Net.SocketAddress :=
  trimmed Net.SocketAddress.parse?
    ⟨"0.0.0.0:0", "0.0.0.0:1", ⟨.v4 ⟨0, 0, 0, 0⟩, 0, 0⟩, ⟨.v4 ⟨0, 0, 0, 0⟩, 0, 1⟩,
      by decide, by decide, by decide⟩

/-- **A temperature,** with blanks around it: the binary number nearest to a decimal numeral. -/
def temperature : Spelling Temperature where
  read? := temperatureValue?
  Spells v x := ∃ t numeral, TrimsTo v t ∧ Decimal.Numeral.read? t = some numeral ∧ numeral.round = x
  read?_eq_some_iff := by
    intro v x
    rw [temperatureValue?, Option.map_eq_some_iff]
    constructor
    · rintro ⟨numeral, hread, hround⟩
      exact ⟨trim v, numeral, trim_eq_iff.mp rfl, hread, hround⟩
    · rintro ⟨t, numeral, htrims, hread, hround⟩
      rw [trim_eq_iff.mpr htrims]
      exact ⟨numeral, hread, hround⟩
  choice := ⟨"0", "1", _, _, rfl, rfl, by decide⟩

/-- The texts for which a flag is on; for `1` letter case makes no difference. -/
theorem flagValue_eq_true_iff {v : String} :
    flagValue v = true ↔ v = "1" ∨ Command.Spells v "true" := by
  rw [flagValue, Bool.or_eq_true, decide_eq_true_eq, decide_eq_true_eq, Command.Spells]

/-- **A flag** is on for `1` and for `true` in any letter case, and off for every other text. -/
def flag : Spelling Bool where
  read? v := some (flagValue v)
  Spells v x := x = true ↔ v = "1" ∨ Command.Spells v "true"
  read?_eq_some_iff := by
    intro v x
    rw [← flagValue_eq_true_iff, ← Bool.eq_iff_iff, Option.some.injEq, eq_comm]
  choice := ⟨"1", "0", true, false, by decide, by decide, by decide⟩

/-- The names of a policy in a variable. -/
def NamesPolicy (v : String) (x : IdPolicy) : Prop :=
  x = .monotonic ∧ Command.Spells v "monotonic"
    ∨ x = .reuseSlot ∧ (Command.Spells v "reuse_slot" ∨ Command.Spells v "reuseslot")

/-- The reader of policies finds one exactly where it is named. -/
theorem policyValue?_eq_some_iff {v : String} {x : IdPolicy} :
    policyValue? v = some x ↔ NamesPolicy v x := by
  -- no name has the letter that something outside ASCII is lowered to
  have hname : ∀ name : String, name.toList.all (fun c => c.toNat < 128 && c ≠ 'k') = true →
      (Command.Spells v name ↔ String.ofList (lowerCase v.toList) = name) := by
    intro name hall
    have hascii : ∀ c ∈ name.toList, c.toNat < 128 ∧ c ≠ 'k' := by simpa using hall
    rw [Command.Spells, ← lowerCase_eq_iff hascii]
    exact ⟨fun h => by rw [h, String.ofList_toList], fun h => by rw [← h, String.toList_ofList]⟩
  rw [NamesPolicy, hname "monotonic" (by decide), hname "reuse_slot" (by decide),
    hname "reuseslot" (by decide), policyValue?]
  generalize String.ofList (lowerCase v.toList) = lowered
  split
  · cases x <;> decide
  · cases x <;> decide
  · cases x <;> decide
  · rename_i hmonotonic hreuse hreuse'
    -- the text is none of the three names, so it names no policy
    refine ⟨(fun h => by cases h), ?_⟩
    rintro (⟨-, h⟩ | ⟨-, h | h⟩)
    exacts [(hmonotonic h).elim, (hreuse h).elim, (hreuse' h).elim]

/-- **A policy,** by its name in any letter case. -/
def policy : Spelling IdPolicy where
  read? := policyValue?
  Spells := NamesPolicy
  read?_eq_some_iff := policyValue?_eq_some_iff
  choice := by
    have hmonotonic : Command.Spells "monotonic" "monotonic" := by
      unfold Command.Spells
      decide
    have hreuse : Command.Spells "reuse_slot" "reuse_slot" := by
      unfold Command.Spells
      decide
    exact ⟨_, _, _, _, policyValue?_eq_some_iff.mpr (Or.inl ⟨rfl, hmonotonic⟩),
      policyValue?_eq_some_iff.mpr (Or.inr ⟨rfl, Or.inl hreuse⟩), by decide⟩

end Spelling

/-! ## The fields -/

/-- **A field of the settings.** -/
structure Field where
  {Value : Type}
  /-- The section of a file that has it. -/
  sectionName : String
  /-- Its key in that section. -/
  key : String
  fileReader : Yaml.Reader Value
  /-- The variable that may set it, and how its values are written there. -/
  source? : Option (String × Spelling Value)
  get : Config → Value
  set : Value → Config → Config
  /-- For a natural number: the largest one that its type admits, and which value a number is. -/
  natural? : Option (Nat × (Nat → Value))
  get_set : ∀ x c, get (set x c) = x := by intros; rfl

namespace Field

/-- The name of the variable of a field. -/
def name? (f : Field) : Option String := f.source?.map (·.1)

/-- A variable that sets a field. -/
def toVariable? (f : Field) : Option Variable :=
  f.source?.map fun (name, spelling) => .of name spelling.read? f.set

/-- A field of other values than natural numbers. -/
def of {Value : Type} (sectionName key : String) (fileReader : Yaml.Reader Value)
    (source? : Option (String × Spelling Value)) (get : Config → Value)
    (set : Value → Config → Config) (get_set : ∀ x c, get (set x c) = x := by intros; rfl) : Field :=
  .mk sectionName key fileReader source? get set none get_set

/-- A field with a variable, where a natural number of at most `max` is kept as it is. -/
def count (sectionName key : String) (max : Nat) (name : String) (get : Config → Nat)
    (set : Nat → Config → Config) (hmax : 1 ≤ max := by decide)
    (get_set : ∀ x c, get (set x c) = x := by intros; rfl) : Field :=
  .mk sectionName key (Yaml.readNatural max) (some (name, .number max hmax)) get set
    (some (max, id)) get_set

/-- The port, a number of 16 bits. -/
abbrev port : Field :=
  .mk "network" "port" (fun d v => (Yaml.readNatural maxWord16 d v).map Nat.toUInt16)
    (some ("THERMGATE_PORT", .port)) (·.network.port) (fun x c => { c with network.port := x })
    (some (maxWord16, Nat.toUInt16))

/-- The limit on handshakes, a number that may be missing. -/
abbrev handshakeLimit : Field :=
  .mk "network" "handshake_timeout_secs" (Yaml.readOptional count64)
    (some ("THERMGATE_HANDSHAKE_TIMEOUT", .limit)) (·.network.handshakeTimeoutSecs)
    (fun x c => { c with network.handshakeTimeoutSecs := x }) (some (maxWord64, some))

end Field

/-- **The fields,** section by section. -/
def fields : List Field := [
  .of "network" "bind_host" (Yaml.readTextBy Net.IpAddress.parse?)
    (some ("THERMGATE_BIND_HOST", .host))
    (·.network.bindHost) fun x c => { c with network.bindHost := x },
  .port,
  .handshakeLimit,
  .count "admission" "max_per_address" maxWord32 "THERMGATE_MAX_PER_ADDRESS"
    (·.admission.maxPerAddress) fun x c => { c with admission.maxPerAddress := x },
  .count "admission" "max_addresses" maxWord64 "THERMGATE_MAX_ADDRESSES"
    (·.admission.maxAddresses) fun x c => { c with admission.maxAddresses := x },
  .count "session" "idle_timeout_secs" maxWord64 "THERMGATE_IDLE_TIMEOUT"
    (·.session.idleTimeoutSecs) fun x c => { c with session.idleTimeoutSecs := x },
  .count "session" "reap_interval_secs" maxWord64 "THERMGATE_REAP_INTERVAL"
    (·.session.reapIntervalSecs) fun x c => { c with session.reapIntervalSecs := x },
  .of "session" "id_policy" (Yaml.readChoice policyName?) (some ("THERMGATE_ID_POLICY", .policy))
    (·.session.idPolicy) fun x c => { c with session.idPolicy := x },
  .of "storage" "db_path" Yaml.readText (some ("THERMGATE_DB", .verbatim))
    (·.storage.dbPath) fun x c => { c with storage.dbPath := x },
  .count "storage" "retry_limit" maxWord32 "THERMGATE_DB_RETRY_LIMIT"
    (·.storage.retryLimit) fun x c => { c with storage.retryLimit := x },
  .count "storage" "retry_delay_secs" maxWord64 "THERMGATE_DB_RETRY_DELAY"
    (·.storage.retryDelaySecs) fun x c => { c with storage.retryDelaySecs := x },
  .count "storage" "drain_interval_ms" maxWord64 "THERMGATE_DRAIN_INTERVAL_MS"
    (·.storage.drainIntervalMs) fun x c => { c with storage.drainIntervalMs := x },
  .of "tls" "enabled" Yaml.readBool (some ("THERMGATE_TLS_ENABLED", .flag))
    (·.tls.enabled) fun x c => { c with tls.enabled := x },
  .of "tls" "cert_path" optionalText (some ("THERMGATE_TLS_CERT", .path))
    (·.tls.certPath) fun x c => { c with tls.certPath := x },
  .of "tls" "key_path" optionalText (some ("THERMGATE_TLS_KEY", .path))
    (·.tls.keyPath) fun x c => { c with tls.keyPath := x },
  .of "tls" "require_client_cert" Yaml.readBool (some ("THERMGATE_TLS_REQUIRE_CLIENT_CERT", .flag))
    (·.tls.requireClientCert) fun x c => { c with tls.requireClientCert := x },
  .of "tls" "client_ca_path" optionalText (some ("THERMGATE_TLS_CLIENT_CA", .path))
    (·.tls.clientCaPath) fun x c => { c with tls.clientCaPath := x },
  .of "client_tls" "enabled" Yaml.readBool (some ("THERMGATE_CLIENT_TLS_ENABLED", .flag))
    (·.clientTls.enabled) fun x c => { c with clientTls.enabled := x },
  .of "client_tls" "ca_path" optionalText (some ("THERMGATE_CLIENT_TLS_CA", .path))
    (·.clientTls.caPath) fun x c => { c with clientTls.caPath := x },
  .of "client_tls" "cert_path" optionalText (some ("THERMGATE_CLIENT_TLS_CERT", .path))
    (·.clientTls.certPath) fun x c => { c with clientTls.certPath := x },
  .of "client_tls" "key_path" optionalText (some ("THERMGATE_CLIENT_TLS_KEY", .path))
    (·.clientTls.keyPath) fun x c => { c with clientTls.keyPath := x },
  .of "client_tls" "insecure" Yaml.readBool (some ("THERMGATE_CLIENT_TLS_INSECURE", .flag))
    (·.clientTls.insecure) fun x c => { c with clientTls.insecure := x },
  .of "client_tls" "server_name" optionalText none
    (·.clientTls.serverName) fun x c => { c with clientTls.serverName := x },
  .of "sampler" "enabled" Yaml.readBool (some ("THERMGATE_SAMPLER_ENABLED", .flag))
    (·.sampler.enabled) fun x c => { c with sampler.enabled := x },
  .count "sampler" "interval_secs" maxWord64 "THERMGATE_SAMPLER_INTERVAL"
    (·.sampler.intervalSecs) fun x c => { c with sampler.intervalSecs := x },
  .of "sampler" "min_celsius" degrees none
    (·.sampler.minCelsius) fun x c => { c with sampler.minCelsius := x },
  .of "sampler" "max_celsius" degrees none
    (·.sampler.maxCelsius) fun x c => { c with sampler.maxCelsius := x },
  .of "monitor" "enabled" Yaml.readBool (some ("THERMGATE_MONITOR_ENABLED", .flag))
    (·.monitor.enabled) fun x c => { c with monitor.enabled := x },
  .mk "monitor" "interval_secs" count64 none (·.monitor.intervalSecs)
    (fun x c => { c with monitor.intervalSecs := x }) (some (maxWord64, id)),
  .mk "monitor" "history_size" count64 none (·.monitor.historySize)
    (fun x c => { c with monitor.historySize := x }) (some (maxWord64, id)),
  .of "monitor" "hot_threshold" temperature (some ("THERMGATE_HOT_THRESHOLD", .temperature))
    (·.monitor.hotThreshold) fun x c => { c with monitor.hotThreshold := x },
  .of "monitor" "cold_threshold" temperature (some ("THERMGATE_COLD_THRESHOLD", .temperature))
    (·.monitor.coldThreshold) fun x c => { c with monitor.coldThreshold := x },
  .of "logging" "filter" Yaml.readText none
    (·.logging.filter) fun x c => { c with logging.filter := x },
  .of "logging" "file" optionalText (some ("THERMGATE_LOG_FILE", .pathUnlessEmpty))
    (·.logging.file) fun x c => { c with logging.file := x },
  .of "metrics" "enabled" Yaml.readBool (some ("THERMGATE_METRICS_ENABLED", .flag))
    (·.metrics.enabled) fun x c => { c with metrics.enabled := x },
  .of "metrics" "bind_addr" (Yaml.readTextBy Net.SocketAddress.parse?)
    (some ("THERMGATE_METRICS_BIND", .socket))
    (·.metrics.bindAddr) fun x c => { c with metrics.bindAddr := x }]

/-- The port is one of the fields. It is told apart as its number needs a conversion. -/
theorem port_mem : Field.port ∈ fields := by simp [fields]

/-- So is the limit on handshakes, the only number that may be missing. -/
theorem handshakeLimit_mem : Field.handshakeLimit ∈ fields := by simp [fields]

/-! ## One field and the others -/

/-- Two fields that do not meet: replacing one leaves the other as it is. -/
def Field.Independent (f g : Field) : Prop :=
  (∀ x c, f.get (g.set x c) = f.get c) ∧ ∀ x c, g.get (f.set x c) = g.get c

/-- **No two fields meet.** -/
theorem independent_fields : fields.Pairwise Field.Independent := by
  unfold fields
  -- pair after pair: the one is in a place that replacing the other does not touch
  repeat' first
    | exact ⟨fun _ _ => rfl, fun _ _ => rfl⟩
    | refine List.pairwise_cons.mpr ⟨?_, ?_⟩
    | refine List.forall_mem_cons.mpr ⟨?_, ?_⟩
    | exact List.forall_mem_nil _
    | exact List.Pairwise.nil

/-- **The fields are everything there is.** -/
theorem ext_fields {a b : Config} (h : ∀ f ∈ fields, f.get a = f.get b) : a = b := by
  simp only [fields, Field.of, Field.count, List.forall_mem_cons] at h
  -- both settings are taken apart down to their fields, which are then equal one by one
  rcases a with ⟨⟨⟩, ⟨⟩, ⟨⟩, ⟨⟩, ⟨⟩, ⟨⟩, ⟨⟩, ⟨⟩, ⟨⟩, ⟨⟩⟩
  rcases b with ⟨⟨⟩, ⟨⟩, ⟨⟩, ⟨⟩, ⟨⟩, ⟨⟩, ⟨⟩, ⟨⟩, ⟨⟩, ⟨⟩⟩
  simp_all

theorem nodup_names : (fields.filterMap Field.name?).Nodup := by decide

/-! ## Variables -/

/-- Converting what was read and then setting it is setting it by way of the conversion. -/
theorem of_map {α β : Type} (name : String) (read : String → Option α) (f : α → β)
    (set : β → Config → Config) :
    Variable.of name (fun v => (read v).map f) set = Variable.of name read fun x => set (f x) := by
  simp only [Variable.of, Variable.mk.injEq, true_and]
  funext v c
  cases read v with
  | none => rfl
  | some x => rfl

/-- **The variables are those of the fields.** -/
theorem settingVariables_eq : settingVariables = fields.filterMap Field.toVariable? := by
  -- a variable sets what its text spells, but for two that make a value of the number read
  have hport := of_map "THERMGATE_PORT" (naturalValue? maxWord16) Nat.toUInt16
  have hlimit := of_map "THERMGATE_HANDSHAKE_TIMEOUT" (naturalValue? maxWord64)
    (fun n => if n = 0 then none else some n)
  simp only [fields, Field.of, Field.count, List.filterMap_cons, List.filterMap_nil,
    Field.toVariable?, Option.map_some, Option.map_none, Spelling.port, Spelling.limit,
    Spelling.map, Spelling.number, Spelling.host, Spelling.socket, Spelling.trimmed,
    Spelling.temperature, Spelling.policy, hport, hlimit]
  rfl

end SensorGateway.Config
