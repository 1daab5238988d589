import SensorGateway.Tls.Credentials

/-!
What outbound links show of the gateway, and whom they trust.

A chain and its key are named by two settings, and a peer that asks for certificates gets to see
them only if both were loaded. `Connects` lists the ways in which a connector is made, with all that
has been read by then. From it follows which settings have their chain and key shown: those that
have peers verified and name both, and no others (`named_identity_shown_iff`). With one of the two,
or where everybody is trusted, a connector is made that shows nothing. Named authorities, in
contrast, are never passed over where peers are verified.
-/

set_option autoImplicit false

namespace SensorGateway.Tls

variable {crypto : Cryptography} {disk : Disk} {c : Config.ClientTls} {x : Connector}

/-! ## The ways to a connector -/

/-- **An identity is loaded exactly if both files are** and cryptography has no objection to the
pair. -/
theorem loadIdentity_eq_ok_iff {cert key : String} {identity : Identity} :
    loadIdentity crypto disk cert key = .ok identity
      ↔ loadCertificates disk cert = .ok identity.chain ∧ loadKey disk key = .ok identity.key
        ∧ crypto.client? identity.chain identity.key = none := by
  rcases hchain : loadCertificates disk cert with e | chain
  · simp [loadIdentity, hchain, bind, Except.bind]
  rcases hsecret : loadKey disk key with e | secret
  · simp [loadIdentity, hchain, hsecret, bind, Except.bind]
  · rcases hwords : crypto.client? chain secret with _ | words
    · simp only [loadIdentity, hchain, hsecret, hwords, refuse, bind, Except.bind, pure,
        Except.pure, Except.ok.injEq]
      constructor
      · rintro rfl
        exact ⟨rfl, rfl, hwords⟩
      · rintro ⟨rfl, rfl, -⟩
        rfl
    · simp only [loadIdentity, hchain, hsecret, hwords, refuse, bind, Except.bind, reduceCtorEq,
        Except.ok.injEq, false_iff]
      rintro ⟨rfl, rfl, hnone⟩
      rw [hwords] at hnone
      cases hnone

/-- Trust is in the web roots if no authorities are named, and otherwise in those that were
loaded. -/
theorem loadTrust_eq_ok_iff {ca? : Option String} {trust : Trust} :
    loadTrust crypto disk ca? = .ok trust
      ↔ (ca? = none ∧ trust = .webRoots)
        ∨ ∃ ca bytes, ca? = some ca ∧ loadAuthorities crypto disk ca = .ok bytes
          ∧ trust = .authorities bytes := by
  rcases ca? with _ | ca
  · simp [loadTrust, eq_comm]
  · rcases hload : loadAuthorities crypto disk ca with e | bytes
    · simp [loadTrust, hload, Except.map]
    · simp [loadTrust, hload, Except.map, eq_comm]

/-- **How settings come to a connector.** Either everybody is trusted and nothing is read, or the
authorities are loaded first; then the chain and the key are, unless one of them is not named. -/
inductive Connects (crypto : Cryptography) (disk : Disk) (c : Config.ClientTls) :
    Connector → Prop
  | unverified (hinsecure : c.insecure = true) : Connects crypto disk c ⟨.anyone, none⟩
  | anonymous {trust : Trust} (hverified : c.insecure = false)
      (htrust : loadTrust crypto disk c.caPath = .ok trust)
      (hunnamed : c.certPath = none ∨ c.keyPath = none) : Connects crypto disk c ⟨trust, none⟩
  | identified {trust : Trust} {cert key : String} {identity : Identity}
      (hverified : c.insecure = false) (htrust : loadTrust crypto disk c.caPath = .ok trust)
      (hcert : c.certPath = some cert) (hkey : c.keyPath = some key)
      (hidentity : loadIdentity crypto disk cert key = .ok identity) :
      Connects crypto disk c ⟨trust, some identity⟩

/-- **A connector is made in one of these ways.** -/
theorem connector_eq_ok_iff : connector disk c crypto = .ok x ↔ Connects crypto disk c x := by
  constructor
  · intro h
    rw [connector] at h
    rcases hinsecure : c.insecure with _ | _
    · rw [hinsecure, if_neg Bool.false_ne_true] at h
      rcases htrust : loadTrust crypto disk c.caPath with e | trust
      · rw [htrust] at h
        cases h
      rcases hcert : c.certPath with _ | cert
      · rw [htrust, hcert] at h
        cases h
        exact .anonymous hinsecure htrust (.inl hcert)
      rcases hkey : c.keyPath with _ | key
      · rw [htrust, hcert, hkey] at h
        cases h
        exact .anonymous hinsecure htrust (.inr hkey)
      rcases hidentity : loadIdentity crypto disk cert key with e | identity
      · simp only [htrust, hcert, hkey, hidentity, bind, Except.bind, reduceCtorEq] at h
      · simp only [htrust, hcert, hkey, hidentity, bind, Except.bind, pure, Except.pure,
          Except.ok.injEq] at h
        subst h
        exact .identified hinsecure htrust hcert hkey hidentity
    · rw [hinsecure, if_pos rfl] at h
      cases h
      exact .unverified hinsecure
  · intro h
    cases h with
    | unverified hinsecure => rw [connector, if_pos hinsecure]
    | anonymous hverified htrust hunnamed =>
      rw [connector, hverified, if_neg Bool.false_ne_true, htrust]
      rcases hunnamed with hcert | hkey
      · rw [hcert]
        rfl
      · rw [hkey]
        rcases c.certPath <;> rfl
    | identified hverified htrust hcert hkey hidentity =>
      rw [connector, hverified, if_neg Bool.false_ne_true, htrust, hcert, hkey]
      simp only [bind, Except.bind, hidentity, pure, Except.pure]

/-! ## What is named -/

/-- A chain or a key is named. -/
def NamesIdentity (c : Config.ClientTls) : Prop := c.certPath ≠ none ∨ c.keyPath ≠ none

/-- Both a chain and a key are named, and peers are verified. -/
structure Presentable (c : Config.ClientTls) : Prop where
  verified : c.insecure = false
  cert : c.certPath ≠ none
  key : c.keyPath ≠ none

/-- **The connector shows what is named:** a chain and a key are, both files have been loaded, and
what was in them is what a peer gets to see. -/
def ShowsNamed (disk : Disk) (c : Config.ClientTls) (x : Connector) : Prop :=
  ∃ cert key identity, c.certPath = some cert ∧ c.keyPath = some key
    ∧ loadCertificates disk cert = .ok identity.chain ∧ loadKey disk key = .ok identity.key
    ∧ x.identity = some identity

/-- **The connector trusts whom is named:** where authorities are, they have been loaded, and they
are who vouches for a peer. -/
def TrustsNamed (crypto : Cryptography) (disk : Disk) (c : Config.ClientTls) (x : Connector) :
    Prop :=
  ∀ ca, c.caPath = some ca →
    ∃ bytes, loadAuthorities crypto disk ca = .ok bytes ∧ x.trust = .authorities bytes

/-- Where peers are verified, the connector trusts whom the settings say. -/
theorem Connects.loadTrust_eq_ok (h : Connects crypto disk c x) (hverified : c.insecure = false) :
    loadTrust crypto disk c.caPath = .ok x.trust := by
  cases h with
  | unverified hinsecure =>
    rw [hverified] at hinsecure
    cases hinsecure
  | anonymous _ htrust _ => exact htrust
  | identified _ htrust _ _ _ => exact htrust

/-- Presentable settings have their chain and key shown. -/
theorem Connects.showsNamed (h : Connects crypto disk c x) (hc : Presentable c) :
    ShowsNamed disk c x := by
  cases h with
  | unverified hinsecure =>
    rw [hc.verified] at hinsecure
    cases hinsecure
  | anonymous _ _ hunnamed => exact absurd hunnamed (not_or.mpr ⟨hc.cert, hc.key⟩)
  | @identified _ cert key identity _ _ hcert hkey hidentity =>
    obtain ⟨hchain, hsecret, -⟩ := loadIdentity_eq_ok_iff.mp hidentity
    exact ⟨cert, key, identity, hcert, hkey, hchain, hsecret, rfl⟩

/-- What is not presentable is not shown, and nothing else is shown in its place. -/
theorem Connects.identity_eq_none (h : Connects crypto disk c x) (hc : ¬ Presentable c) :
    x.identity = none := by
  cases h with
  | unverified _ => rfl
  | anonymous _ _ _ => rfl
  | identified hverified _ hcert hkey _ =>
    exact absurd ⟨hverified, by simp [hcert], by simp [hkey]⟩ hc

/-- And where peers are verified named authorities are trusted, even if nothing is shown. -/
theorem Connects.trustsNamed (h : Connects crypto disk c x) (hverified : c.insecure = false) :
    TrustsNamed crypto disk c x := by
  intro ca hca
  rcases loadTrust_eq_ok_iff.mp (h.loadTrust_eq_ok hverified) with
    ⟨hnone, -⟩ | ⟨other, bytes, hother, hload, htrust⟩
  · rw [hca] at hnone
    cases hnone
  · obtain rfl := Option.some.inj (hca.symm.trans hother)
    exact ⟨bytes, hload, htrust⟩

/-- Whatever is named, only authorities that cannot be loaded keep unpresentable settings from a
connector. -/
theorem exists_connects (hc : ¬ Presentable c)
    (hloads : ¬ (c.insecure = false ∧ ∃ e, loadTrust crypto disk c.caPath = .error e)) :
    ∃ x, Connects crypto disk c x := by
  -- every case is made by one of the constructors, and only `identified` would need the files
  rcases hinsecure : c.insecure with _ | _
  · rcases htrust : loadTrust crypto disk c.caPath with e | trust
    · exact absurd ⟨hinsecure, e, htrust⟩ hloads
    · refine ⟨_, .anonymous hinsecure htrust ?_⟩
      rcases hcert : c.certPath with _ | cert
      · exact .inl rfl
      rcases hkey : c.keyPath with _ | key
      · exact .inr rfl
      · exact absurd ⟨hinsecure, by simp [hcert], by simp [hkey]⟩ hc
  · exact ⟨_, .unverified hinsecure⟩

/-! ## What is shown -/

/-- **A named chain or key is shown exactly if both are named and peers are verified.** For all
settings and files: whenever a connector is made, what is named is shown, exactly if this is so, or
nothing is named, or no connector is made because the authorities cannot be loaded. Settings that
are not of this kind get connectors all the same, which show nothing. Where peers are verified,
named authorities have been loaded and are those that are trusted. -/
theorem named_identity_shown_iff (crypto : Cryptography) (disk : Disk) (c : Config.ClientTls) :
    ((∀ x, connector disk c crypto = .ok x → NamesIdentity c → ShowsNamed disk c x)
        ↔ Presentable c ∨ ¬ NamesIdentity c
          ∨ c.insecure = false ∧ ∃ e, loadTrust crypto disk c.caPath = .error e)
      ∧ (∀ x, connector disk c crypto = .ok x → ¬ Presentable c → x.identity = none)
      ∧ (∀ x, connector disk c crypto = .ok x → c.insecure = false →
        TrustsNamed crypto disk c x) := by
  simp only [connector_eq_ok_iff]
  refine ⟨⟨fun hshown => ?_, ?_⟩, fun x h hc => h.identity_eq_none hc,
    fun x h hverified => h.trustsNamed hverified⟩
  · by_cases hc : Presentable c
    · exact .inl hc
    by_cases hnames : NamesIdentity c
    · refine .inr (.inr (Classical.not_not.mp fun hloads => ?_))
      -- the connector that is made shows nothing, and not what is named
      obtain ⟨x, hx⟩ := exists_connects hc hloads
      obtain ⟨_, _, identity, -, -, -, -, hidentity⟩ := hshown x hx hnames
      rw [hx.identity_eq_none hc] at hidentity
      cases hidentity
    · exact .inr (.inl hnames)
  · rintro (hc | hnames | ⟨hverified, e, hload⟩) x hx hnamed
    · exact hx.showsNamed hc
    · exact absurd hnamed hnames
    · have htrust := hx.loadTrust_eq_ok hverified
      rw [hload] at htrust
      cases htrust

/-- An empty disk has the working directory and nothing else. -/
theorem resolve_empty {path : String} {node : Node} (h : ({} : Disk).resolve path = .ok node) :
    node = .directory := by
  rw [Disk.resolve] at h
  by_cases hpath : path = ""
  · rw [if_pos hpath] at h
    cases h
  rw [if_neg hpath] at h
  rcases hparent : ({} : Disk).parentFault? (Disk.partsOf path) with _ | fault
  · by_cases hparts : (Disk.partsOf path).isEmpty = true
    · simp only [hparent, Disk.node?, if_pos hparts] at h
      cases h
      rfl
    · simp only [hparent, Disk.node?, if_neg hparts] at h
      cases h
  · simp only [hparent] at h
    cases h

/-- No certificates can be loaded from an empty disk. -/
theorem loadCertificates_empty (path : String) (chain : List UInt8) :
    loadCertificates {} path ≠ .ok chain := by
  intro h
  rw [loadCertificates, loadSections] at h
  rcases hresolve : ({} : Disk).resolve path with fault | node
  · simp only [hresolve] at h
    cases h
  · obtain rfl := resolve_empty hresolve
    simp only [Disk.read, hresolve] at h
    cases h

/-- **A named chain and key can be passed over:** whoever names them and leaves the other settings
as they are gets a connector that has read neither file and shows nothing. -/
theorem named_identity_passed_over :
    let c : Config.ClientTls := { certPath := some "client.pem", keyPath := some "client-key.pem" }
    NamesIdentity c ∧ (∀ chain, loadCertificates {} "client.pem" ≠ .ok chain)
      ∧ connector {} c = .ok ⟨.anyone, none⟩ ∧ ¬ ShowsNamed {} c ⟨.anyone, none⟩ := by
  intro c
  refine ⟨.inl (by decide), loadCertificates_empty "client.pem", rfl, ?_⟩
  rintro ⟨_, _, _, -, -, -, -, hidentity⟩
  cases hidentity

end SensorGateway.Tls
