import SensorGateway.Proofs.Monitor.Windows
import SensorGateway.Proofs.Session.Refusals
import SensorGateway.Proofs.Tls.Credentials

/-!
What accepted settings do for a gateway, and what they do not.

The parts of a gateway rely on their settings in ways that they do not check: the sampler on a range
that is not empty, the queue on a limit that is not zero, the monitor on a window of at least one
sample, the acceptor on paths that are set. Each of these is one rule of `Config.Sound`, and
`accepted_settings_shield_components` goes from the rules to the parts.

Admission relies on two limits, and only one of them is a rule. So whether an accepted gateway serves
its first node is a question of the other one (`accepted_gateway_serves_iff`); if that is zero, the
ledger is full from the start, and a full ledger stays full.
-/

set_option autoImplicit false

namespace SensorGateway

/-! ## Draws -/

namespace Sampling

/-- Tries fail for want of words, not of a range. -/
theorem drawWithin_ne_emptyRange (r : DrawRange) (tries : Nat) (s : WordSource) :
    WordSource.drawWithin r tries s ≠ .error .emptyRange := by
  induction tries generalizing s with
  | zero => exact fun h => by cases h
  | succ tries ih =>
    rw [WordSource.drawWithin]
    split
    · exact fun h => by cases h
    · split
      · exact fun h => by cases h
      · exact ih _

/-- A draw says that its range is empty exactly if it is. -/
theorem draw_eq_emptyRange_iff {r : DrawRange} {s : WordSource} :
    s.draw r = .error .emptyRange ↔ r.size = 0 := by
  rw [WordSource.draw]
  split
  · rename_i hsize
    exact iff_of_true rfl hsize
  · rename_i hsize
    exact iff_of_false (drawWithin_ne_emptyRange r _ s) hsize

end Sampling

/-! ## Parts of an accepted gateway -/

namespace Gateway

open Sampling (DrawRange WordSource draw_eq_emptyRange_iff)

variable {c : Config} {g : Gateway} {disk : Disk} {crypto : Tls.Cryptography}

/-- A pass over a range with a value never says so. -/
theorem sampleEach_ne_emptyRange {range : DrawRange} (hsize : range.size ≠ 0) (now : Moment)
    (ids : List SensorId) (s : Sampled) :
    sampleEach now range ids s ≠ .error .emptyRange := by
  induction ids generalizing s with
  | nil => exact fun h => by cases h
  | cons id ids ih =>
    rw [sampleEach]
    split
    · rename_i fault hdraw
      rintro h
      cases h
      exact hsize (draw_eq_emptyRange_iff.mp hdraw)
    · exact ih _

/-- **A pass of the sampler draws from an empty range exactly if the range is empty** and there is
somebody to draw for. -/
theorem sample_eq_emptyRange_iff {source : WordSource} {now : Moment} :
    g.sample source now = .error .emptyRange
      ↔ g.drawRange.size = 0 ∧ g.table.roster.activeIds ≠ [] := by
  rw [sample]
  constructor
  · intro h
    refine ⟨?_, ?_⟩
    · by_contra hsize
      exact sampleEach_ne_emptyRange hsize now _ _ h
    · intro hnone
      rw [hnone] at h
      cases h
  · rintro ⟨hsize, hsome⟩
    obtain ⟨id, ids, hids⟩ := List.exists_cons_of_ne_nil hsome
    rw [hids]
    simp only [sampleEach, draw_eq_emptyRange_iff.mpr hsize]

theorem size_drawRange_ne_zero (h : g.config.Sound) : g.drawRange.size ≠ 0 := by
  have hrange := h.range
  simp only [drawRange, DrawRange.size]
  omega

/-- The clamp of the retry limit does nothing. -/
theorem queueSettings_of_sound (h : c.Sound) :
    c.storage.queueSettings = {
      path := c.storage.dbPath
      retryLimit := c.storage.retryLimit
      retryDelay := c.storage.retryDelaySecs * 1000
      drainInterval := c.storage.drainIntervalMs } := by
  simp only [Config.StorageSettings.queueSettings, Nat.max_eq_left h.retries]

/-- A history starts with a sample and goes no further than its size. -/
theorem length_samples_watch (h : c.Sound) (tables : List Table) {x : Monitor.History}
    (hx : x ∈ ((ofConfig c).watch tables).histories) :
    1 ≤ x.samples.length ∧ x.samples.length ≤ c.monitor.historySize := by
  obtain ⟨-, hshows⟩ := shows_watch h.history tables
  -- a history is kept for a session that was heard, so its log has an entry
  obtain ⟨hsome, heq⟩ := hshows.eq_ofLog hx
  have hlog := List.length_pos_iff.mpr hsome
  have hhistory := h.history
  rw [heq, Monitor.History.ofLog, Monitor.length_window]
  omega

/-- **Accepted settings keep from the parts of a gateway what they do not check.** With encrypted
inbound links, every path is set and all that can be wrong is in the named files: the acceptor loads
them, no error of it is about a path that is not set, and it does not look at any other file. And
whenever inbound links are encrypted, their settings are turned down exactly if the acceptor would
miss a path. Whatever the table is and whichever words come, the sampler never draws from an empty
range. The queue gets the limit, the delay and the interval as they are set. And after any looks of
the monitor, at any tables, every history has at least one sample and no more than its size. -/
theorem accepted_settings_shield_components (hvalid : c.validate = .ok ()) :
    (c.tls.enabled = true →
        (∃ cert key, c.tls.certPath = some cert ∧ c.tls.keyPath = some key ∧ ∀ disk crypto,
          Tls.acceptor disk c.tls crypto = Tls.loadServer crypto disk cert key c.tls.authority?)
        ∧ (∀ disk crypto e, Tls.acceptor disk c.tls crypto = .error e →
          Tls.IsAboutFile e ∧ ¬ Tls.IsMissingPath e)
        ∧ ∀ disk disk' crypto,
          (∀ path ∈ c.tls.files, Disk.resolve disk' path = Disk.resolve disk path) →
            Tls.acceptor disk' c.tls crypto = Tls.acceptor disk c.tls crypto)
      ∧ (∀ t : Config.Tls, t.enabled = true → ∀ disk crypto,
        (t.validate ≠ .ok () ↔ ∃ e, Tls.acceptor disk t crypto = .error e ∧ Tls.IsMissingPath e))
      ∧ (∀ g : Gateway, g.config = c → ∀ source now, g.sample source now ≠ .error .emptyRange)
      ∧ c.storage.queueSettings = {
        path := c.storage.dbPath
        retryLimit := c.storage.retryLimit
        retryDelay := c.storage.retryDelaySecs * 1000
        drainInterval := c.storage.drainIntervalMs }
      ∧ ∀ tables, ∀ h ∈ ((ofConfig c).watch tables).histories,
        1 ≤ h.samples.length ∧ h.samples.length ≤ c.monitor.historySize := by
  have hsound := Config.validate_eq_ok_iff.mp hvalid
  refine ⟨fun henabled => ?_, fun t henabled => t.validate_ne_ok_iff henabled, ?_,
    queueSettings_of_sound hsound, fun tables h => length_samples_watch hsound tables⟩
  · have hcomplete := hsound.tls henabled
    refine ⟨hcomplete.acceptor_eq, fun disk crypto e he => ?_,
      fun disk disk' crypto => hcomplete.acceptor_congr⟩
    exact ⟨hcomplete.isAboutFile he, (hcomplete.isAboutFile he).not_isMissingPath⟩
  · rintro g rfl source now hempty
    exact size_drawRange_ne_zero hsound (sample_eq_emptyRange_iff.mp hempty).1

/-- The defaults are accepted, and their inbound links are encrypted. Without a key they would be
turned down, and the acceptor would miss it. A session that has measured is drawn for, and two looks
at it leave one history of one sample. -/
theorem accepted_settings_shield_components_of_defaults :
    let c : Config := {}
    let keyless : Config.Tls := { c.tls with keyPath := none }
    let s : Session := { Session.start "10.0.0.1" "10.0.0.1" 80 false 0 ⟨0, 0⟩ with
      latest := ⟨1, ⟨0⟩, Binary.ofInt 20, true⟩ }
    let t : Table := { (ofConfig c).table with roster := { sessions := [s] } }
    c.validate = .ok () ∧ c.tls.enabled = true ∧ keyless.enabled = true
      ∧ (∀ e, Tls.acceptor {} c.tls = .error e → ¬ Tls.IsMissingPath e)
      ∧ keyless.validate ≠ .ok ()
      ∧ (∃ e, Tls.acceptor {} keyless = .error e ∧ Tls.IsMissingPath e)
      ∧ t.roster.activeIds = [⟨0⟩]
      ∧ { ofConfig c with table := t }.sample ⟨[7], 0⟩ ⟨0, 0⟩ ≠ .error .emptyRange
      ∧ c.storage.queueSettings = ⟨"sensor_data.db", 3, 5000, 1000⟩
      ∧ ((ofConfig c).watch [t, t]).histories.map (·.samples.length) = [1]
      ∧ ∀ h ∈ ((ofConfig c).watch [t, t]).histories,
        1 ≤ h.samples.length ∧ h.samples.length ≤ c.monitor.historySize := by
  intro c keyless s t
  have hvalid : c.validate = .ok () := by decide
  have hbroken : keyless.validate ≠ .ok () := by decide
  obtain ⟨hacceptor, hrules, hsample, hqueue, hhistories⟩ :=
    accepted_settings_shield_components hvalid
  obtain ⟨-, hfiles, -⟩ := hacceptor rfl
  exact ⟨hvalid, rfl, rfl, fun e he => (hfiles {} {} e he).2, hbroken,
    (hrules keyless rfl {} {}).mp hbroken, by decide, hsample _ rfl _ _,
    hqueue.trans (by decide), by decide, hhistories [t, t]⟩

/-! ## The first node -/

/-- However a gateway was built, it is what its settings say. -/
theorem build_eq_ofConfig (h : build disk c crypto = .ok g) : g = ofConfig c := by
  -- credentials are loaded or not, and nothing comes of them but an error
  simp only [build, bind, Except.bind, pure, Except.pure] at h
  repeat' split at h
  all_goals cases h
  all_goals rfl

/-- Before its first entry a ledger with room lets everybody in. -/
theorem wouldAllow_ofConfig (hceiling : 0 < c.admission.maxPerAddress) (address : String) :
    (ofConfig c).table.ledger.wouldAllow address = true ↔ 0 < c.admission.maxAddresses := by
  have hnew : address ∉ (ofConfig c).table.ledger.addresses := List.not_mem_nil
  rw [Admission.Ledger.wouldAllow_iff]
  constructor
  · rintro (⟨hmem, -⟩ | ⟨-, -, hroom⟩)
    · exact absurd hmem hnew
    · exact hroom
  · exact fun hroom => .inr ⟨hnew, hceiling, hroom⟩

/-- The first session that gets a permit is entered, since no port is taken. -/
theorem insert_ofConfig (s : Session) (now : Moment)
    (h : (ofConfig c).table.ledger.wouldAllow s.address = true) :
    ((ofConfig c).table.insert s now).1 = .ok ⟨0⟩ := by
  rw [← Admission.Ledger.isSome_allow?] at h
  obtain ⟨l, hl⟩ := Option.isSome_iff_exists.mp h
  have hfree : (ofConfig c).table.roster.connectedOnPort? s.port = none := rfl
  rw [Table.insert_of_free hl hfree]
  show Except.ok (Roster.assignedId {} c.session.idPolicy) = .ok ⟨0⟩
  rcases c.session.idPolicy with _ | _
  · rfl
  · rfl

/-- A table whose ledger has no room at all turns everybody away, whatever has been done to it. -/
theorem insert_run_ofConfig (hnone : c.admission.maxAddresses = 0)
    (operations : List Table.Operation) (s : Session) (now : Moment) :
    let t := (ofConfig c).table.run operations
    t.ledger.wouldAllow s.address = false
      ∧ (t.insert s now).1 = .error (.admissionDenied s.address) := by
  intro t
  have hstart : (ofConfig c).table.ledger.FullWithout s.address := ⟨List.not_mem_nil, hnone.symm⟩
  -- a ledger without room is full and without the address, which operations do not change
  obtain ⟨hout, hfull⟩ : t.ledger.FullWithout s.address := Table.fullWithout_run hstart operations
  have hdenied : ¬ t.ledger.wouldAllow s.address = true := by
    rw [Admission.Ledger.wouldAllow_iff]
    rintro (⟨hin, -⟩ | ⟨-, -, hroom⟩)
    · exact hout hin
    · omega
  have hnopermit : t.ledger.allow? s.address = none := by
    rw [← Option.not_isSome_iff_eq_none, Admission.Ledger.isSome_allow?]
    exact hdenied
  rw [Table.insert_of_denied hnopermit]
  exact ⟨by simpa using hdenied, rfl⟩

/-- **An accepted gateway serves its first node exactly if it may have an address.** However it was
made, and whichever session comes first: its address passes the check and it is entered, as number
zero, exactly if the settings allow one address or more. With none, which the rules let pass, the
gateway is made all the same, and it turns away every session for good: after any operations the
check fails, and the insert is denied. -/
theorem accepted_gateway_serves_iff (hvalid : c.validate = .ok ())
    (hbuild : build disk c crypto = .ok g) :
    (∀ s now, (g.table.ledger.wouldAllow s.address = true ∧ (g.table.insert s now).1 = .ok ⟨0⟩)
        ↔ 0 < c.admission.maxAddresses)
      ∧ (c.admission.maxAddresses = 0 → ∀ operations s now,
        (g.table.run operations).ledger.wouldAllow s.address = false
          ∧ ((g.table.run operations).insert s now).1 = .error (.admissionDenied s.address)) := by
  obtain rfl := build_eq_ofConfig hbuild
  have hceiling := (Config.validate_eq_ok_iff.mp hvalid).ceiling
  refine ⟨fun s now => ?_, fun hnone operations s now => insert_run_ofConfig hnone operations s now⟩
  constructor
  · exact fun h => (wouldAllow_ofConfig hceiling s.address).mp h.1
  · intro hroom
    have hallowed := (wouldAllow_ofConfig hceiling s.address).mpr hroom
    exact ⟨hallowed, insert_ofConfig s now hallowed⟩

/-- With one address a node is served, whatever its port is. -/
theorem accepted_gateway_serves_iff_of_one_address :
    let c : Config :=
      { admission := { maxAddresses := 1 }, tls := .disabled, clientTls := { enabled := false } }
    let s (port : UInt16) : Session := Session.start "10.0.0.1" "10.0.0.1" port false 0 ⟨0, 0⟩
    c.validate = .ok () ∧ build {} c = .ok (ofConfig c)
      ∧ ∀ port, (ofConfig c).table.ledger.wouldAllow "10.0.0.1" = true
        ∧ ((ofConfig c).table.insert (s port) ⟨0, 0⟩).1 = .ok ⟨0⟩ := by
  intro c s
  have hvalid : c.validate = .ok () := by decide
  have hbuild : build {} c = .ok (ofConfig c) := rfl
  have hserves := (accepted_gateway_serves_iff hvalid hbuild).1
  exact ⟨hvalid, hbuild, fun port => (hserves (s port) ⟨0, 0⟩).mpr (by decide)⟩

/-- **With none, accepted settings make a gateway that serves nobody.** -/
theorem accepted_gateway_denies_first_node :
    let c : Config :=
      { admission := { maxAddresses := 0 }, tls := .disabled, clientTls := { enabled := false } }
    c.validate = .ok () ∧ build {} c = .ok (ofConfig c)
      ∧ (ofConfig c).table.ledger.wouldAllow "10.0.0.1" = false
      ∧ ((ofConfig c).table.insert (Session.start "10.0.0.1" "10.0.0.1" 9000 false 0 ⟨0, 0⟩)
        ⟨0, 0⟩).1 = .error (.admissionDenied "10.0.0.1") := by
  intro c
  exact ⟨by decide, rfl, by decide, by decide⟩

end Gateway

end SensorGateway
