import SensorGateway.Config.Validation

/-!
What settings are like that have been accepted.

`Sound` is the list of rules without their order and their wordings. Settings are accepted exactly if
they obey it (`validate_eq_ok_iff`), so whoever is given accepted settings can go on from its fields.
-/

set_option autoImplicit false

namespace SensorGateway.Config

/-- **All files that encrypted inbound links need are named.** -/
structure Tls.Complete (t : Tls) : Prop where
  certificates : t.certPath ≠ none
  key : t.keyPath ≠ none
  authority : t.requireClientCert = true → t.clientCaPath ≠ none

/-- **Settings that obey the rules.** -/
structure Sound (c : Config) : Prop where
  port : c.network.port ≠ 0
  ceiling : 0 < c.admission.maxPerAddress
  retries : 0 < c.storage.retryLimit
  range : c.sampler.minCelsius < c.sampler.maxCelsius
  history : 0 < c.monitor.historySize
  tls : c.tls.enabled = true → c.tls.Complete

/-- No rule on inbound encryption is broken exactly if it is off or its files are named. -/
theorem Tls.brokenRule?_eq_none_iff {t : Tls} :
    t.brokenRule? = none ↔ (t.enabled = true → t.Complete) := by
  unfold brokenRule?
  constructor
  · intro h henabled
    -- each rule that is not broken is a field
    simp only [henabled, Bool.not_true, Bool.false_eq_true, if_false] at h
    split at h
    · cases h
    split at h
    · cases h
    split at h
    · cases h
    rename_i hcert hkey hauthority
    refine ⟨by simpa using hcert, by simpa using hkey, fun hrequired => ?_⟩
    simpa [hrequired] using hauthority
  · intro h
    rcases henabled : t.enabled with _ | _
    · rfl
    · obtain ⟨hcert, hkey, hauthority⟩ := h henabled
      have hnamed : ¬ (t.requireClientCert && t.clientCaPath.isNone) = true := by
        simpa using hauthority
      rw [if_neg (by simp), if_neg (by simpa using hcert), if_neg (by simpa using hkey),
        if_neg hnamed]

/-- Inbound encryption is accepted exactly if it is off or its files are named. -/
theorem Tls.validate_eq_ok_iff {t : Tls} :
    t.validate = .ok () ↔ (t.enabled = true → t.Complete) := by
  rw [← brokenRule?_eq_none_iff, validate]
  rcases t.brokenRule? with _ | rule
  · simp
  · simp

/-- **Settings are accepted exactly if they obey the rules.** -/
theorem validate_eq_ok_iff {c : Config} : c.validate = .ok () ↔ c.Sound := by
  have hbroken : c.validate = .ok () ↔ c.brokenRule? = none := by
    rw [validate]
    rcases c.brokenRule? with _ | rule
    · simp
    · simp
  rw [hbroken]
  unfold brokenRule?
  constructor
  · intro h
    split at h
    · cases h
    split at h
    · cases h
    split at h
    · cases h
    split at h
    · cases h
    split at h
    · cases h
    rename_i hport hceiling hretries hrange hhistory
    exact ⟨hport, Nat.pos_of_ne_zero hceiling, Nat.pos_of_ne_zero hretries, Int.not_le.mp hrange,
      Nat.pos_of_ne_zero hhistory, Tls.brokenRule?_eq_none_iff.mp h⟩
  · intro h
    rw [if_neg h.port, if_neg (Nat.ne_of_gt h.ceiling), if_neg (Nat.ne_of_gt h.retries),
      if_neg (Int.not_le.mpr h.range), if_neg (Nat.ne_of_gt h.history)]
    exact Tls.brokenRule?_eq_none_iff.mpr h.tls

end SensorGateway.Config
