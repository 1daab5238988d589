import SensorGateway.Proofs.Config.Validation
import SensorGateway.Tls.Credentials

/-!
What can be wrong with the credentials of inbound links.

There are two kinds of errors, and they cannot be taken for each other. A path that is not set is
reported in one of three wordings (`IsMissingPath`), before any file is looked at; everything else
names what was to be done with a file that was named (`IsAboutFile`). Loading makes errors of the
second kind only, which is told function by function, and it looks at the named files only.
-/

set_option autoImplicit false

namespace SensorGateway

/-! ## Loading -/

namespace Tls

variable {crypto : Cryptography} {disk disk' : Disk} {path cert key : String} {ca : Option String}
  {e : GatewayError}

/-- The errors of a path that is not set. -/
inductive IsMissingPath : GatewayError → Prop
  | certificates : IsMissingPath (.tlsConfig "cert_path not set")
  | key : IsMissingPath (.tlsConfig "key_path not set")
  | authority : IsMissingPath (.tlsConfig "client_ca_path not set for mTLS")

/-- What errors of named files start with. -/
def fileFronts : List String :=
  ["cannot open ", "invalid ", "no certificates found in ", "no private key found in ",
    "failed to build client verifier: "]

/-- The errors of a file that is named. -/
def IsAboutFile (e : GatewayError) : Prop :=
  ∃ front ∈ fileFronts, ∃ rest, e = .tlsConfig (front ++ rest)

/-- **No error of a file is one of a path that is not set.** -/
theorem IsAboutFile.not_isMissingPath (h : IsAboutFile e) : ¬ IsMissingPath e := by
  obtain ⟨front, hfront, rest, rfl⟩ := h
  have hstart : ∀ words, front ++ rest = words → front.toList <+: words.toList := by
    rintro words rfl
    rw [String.toList_append]
    exact List.prefix_append _ _
  -- the wordings differ in their first letters, so no front is one of a missing path
  have hnone : ∀ front ∈ fileFronts, ¬ front.toList <+: "cert_path not set".toList
      ∧ ¬ front.toList <+: "key_path not set".toList
      ∧ ¬ front.toList <+: "client_ca_path not set for mTLS".toList := by decide
  obtain ⟨hcert, hkey, hauthority⟩ := hnone front hfront
  intro hmissing
  generalize hwords : front ++ rest = words at hmissing
  cases hmissing with
  | certificates => exact hcert (hstart _ hwords)
  | key => exact hkey (hstart _ hwords)
  | authority => exact hauthority (hstart _ hwords)

/-- What is done one after the other fails in the first part, or in the second. -/
theorem bind_eq_error_iff {ε α β : Type} {x : Except ε α} {f : α → Except ε β} {e : ε} :
    x >>= f = .error e ↔ x = .error e ∨ ∃ a, x = .ok a ∧ f a = .error e := by
  rcases x with e' | a
  · simp [bind, Except.bind]
  · simp [bind, Except.bind]

/-- A file that cannot be read is told by its kind and path. -/
theorem isAboutFile_of_loadSections {kind : CredentialKind}
    (h : loadSections disk kind path = .error e) : IsAboutFile e := by
  simp only [loadSections] at h
  split at h
  · cases h
    exact ⟨"cannot open ", by decide, _, by rw [String.append_assoc]⟩
  · split at h
    · cases h
      exact ⟨"invalid ", by decide, _, by rw [String.append_assoc]⟩
    · cases h

theorem isAboutFile_malformed (kind : CredentialKind) (path : String) (fault : PemError) :
    IsAboutFile (malformed kind path fault) :=
  ⟨"invalid ", by decide, kind.text ++ " " ++ Text.quoted path ++ ": " ++ fault.message,
    by simp only [malformed, String.append_assoc]⟩

theorem isAboutFile_of_loadCertificates (h : loadCertificates disk path = .error e) :
    IsAboutFile e := by
  rw [loadCertificates] at h
  split at h
  · rename_i hsections
    cases h
    exact isAboutFile_of_loadSections hsections
  · cases h
    exact isAboutFile_malformed ..
  · split at h
    · cases h
    · cases h
      exact ⟨"no certificates found in ", by decide, _, rfl⟩

theorem isAboutFile_of_loadKey (h : loadKey disk path = .error e) : IsAboutFile e := by
  rw [loadKey] at h
  split at h
  · rename_i hsections
    cases h
    exact isAboutFile_of_loadSections hsections
  · split at h
    · cases h
    · split at h
      · cases h
        exact isAboutFile_malformed ..
      · cases h
        exact ⟨"no private key found in ", by decide, _, rfl⟩

/-- The words of cryptography come after those that say what was to be done. -/
theorem isAboutFile_of_refuse {front : String} {found? : Option String}
    (hfront : ∃ start ∈ fileFronts, ∃ rest, front = start ++ rest)
    (h : refuse front found? = .error e) : IsAboutFile e := by
  obtain ⟨start, hstart, rest, rfl⟩ := hfront
  rcases found? with _ | words
  · cases h
  · cases h
    exact ⟨start, hstart, rest ++ words, by rw [String.append_assoc]⟩

theorem isAboutFile_of_loadAuthorities (h : loadAuthorities crypto disk path = .error e) :
    IsAboutFile e := by
  rcases bind_eq_error_iff.mp h with hload | ⟨bytes, -, h⟩
  · exact isAboutFile_of_loadCertificates hload
  · rcases bind_eq_error_iff.mp h with hrefuse | ⟨-, -, h⟩
    · have hfront : "invalid CA cert " ++ Text.quoted path ++ ": "
          = "invalid " ++ ("CA cert " ++ Text.quoted path ++ ": ") := by
        simp only [← String.append_assoc]
        rfl
      exact isAboutFile_of_refuse ⟨"invalid ", by decide, _, hfront⟩ hrefuse
    · cases h

theorem isAboutFile_of_loadVerifier (h : loadVerifier crypto disk path = .error e) :
    IsAboutFile e := by
  rcases bind_eq_error_iff.mp h with hload | ⟨bytes, -, h⟩
  · exact isAboutFile_of_loadAuthorities hload
  · exact isAboutFile_of_refuse ⟨_, by decide, "", String.append_empty.symm⟩ h

/-- **Loading makes errors of files only.** -/
theorem isAboutFile_of_loadServer (h : loadServer crypto disk cert key ca = .error e) :
    IsAboutFile e := by
  rcases bind_eq_error_iff.mp h with hchain | ⟨chain, -, h⟩
  · exact isAboutFile_of_loadCertificates hchain
  rcases bind_eq_error_iff.mp h with hsecret | ⟨secret, -, h⟩
  · exact isAboutFile_of_loadKey hsecret
  rcases bind_eq_error_iff.mp h with hauthority | ⟨-, -, h⟩
  · rcases ca with _ | path
    · cases hauthority
    · exact isAboutFile_of_loadVerifier hauthority
  · exact isAboutFile_of_refuse ⟨"invalid ", by decide, "server cert/key: ", rfl⟩ h

/-! ## The files that are looked at -/

theorem loadSections_congr (h : disk'.resolve path = disk.resolve path) (kind : CredentialKind) :
    loadSections disk' kind path = loadSections disk kind path := by
  simp only [loadSections, Disk.read, h]

theorem loadCertificates_congr (h : disk'.resolve path = disk.resolve path) :
    loadCertificates disk' path = loadCertificates disk path := by
  rw [loadCertificates, loadCertificates, loadSections_congr h]

theorem loadKey_congr (h : disk'.resolve path = disk.resolve path) :
    loadKey disk' path = loadKey disk path := by
  rw [loadKey, loadKey, loadSections_congr h]

/-- **Loading is a matter of the files named.** -/
theorem loadServer_congr (hcert : disk'.resolve cert = disk.resolve cert)
    (hkey : disk'.resolve key = disk.resolve key)
    (hca : ∀ path ∈ ca, disk'.resolve path = disk.resolve path) :
    loadServer crypto disk' cert key ca = loadServer crypto disk cert key ca := by
  have hauthority : loadIfNamed (loadVerifier crypto disk') ca
      = loadIfNamed (loadVerifier crypto disk) ca := by
    rcases ca with _ | path
    · rfl
    · simp only [loadIfNamed, loadVerifier, loadAuthorities, loadCertificates_congr (hca path rfl)]
  rw [loadServer, loadServer, loadCertificates_congr hcert, loadKey_congr hkey, hauthority]

end Tls

/-! ## The settings -/

namespace Config.Tls

open SensorGateway.Tls (Cryptography IsAboutFile IsMissingPath acceptor loadServer loadServer_congr
  isAboutFile_of_loadServer)

variable {t : Tls} {crypto : Cryptography} {disk disk' : Disk}

/-- The certificates of the authority that nodes need, if they need any. -/
def authority? (t : Tls) : Option String := if t.requireClientCert then t.clientCaPath else none

/-- The files that inbound links need. -/
def files (t : Tls) : List String := t.certPath.toList ++ t.keyPath.toList ++ t.authority?.toList

/-- **With all files named, there is nothing but loading them.** -/
theorem Complete.acceptor_eq (h : t.Complete) :
    ∃ cert key, t.certPath = some cert ∧ t.keyPath = some key
      ∧ ∀ disk crypto, acceptor disk t crypto = loadServer crypto disk cert key t.authority? := by
  obtain ⟨cert, hcert⟩ := Option.ne_none_iff_exists'.mp h.certificates
  obtain ⟨key, hkey⟩ := Option.ne_none_iff_exists'.mp h.key
  refine ⟨cert, key, hcert, hkey, fun disk crypto => ?_⟩
  -- what is left of the acceptor is the authority, which is there whenever it is required
  simp only [acceptor, hcert, hkey, authority?]
  split
  · rename_i hrequired hnone
    exact absurd hnone (h.authority hrequired)
  · rfl

/-- Without, the first path that is missing is reported. -/
theorem exists_isMissingPath (h : ¬ t.Complete) (disk : Disk) (crypto : Cryptography) :
    ∃ e, acceptor disk t crypto = .error e ∧ IsMissingPath e := by
  unfold acceptor
  split
  · exact ⟨_, rfl, .certificates⟩
  · exact ⟨_, rfl, .key⟩
  · split
    · exact ⟨_, rfl, .authority⟩
    · rename_i cert key hcert hkey required ca hnot
      refine absurd ⟨?_, ?_, ?_⟩ h
      · simp [hcert]
      · simp [hkey]
      · exact hnot

/-- **With all files named, every error is one of a file.** -/
theorem Complete.isAboutFile (h : t.Complete) {e : GatewayError}
    (he : acceptor disk t crypto = .error e) : IsAboutFile e := by
  obtain ⟨cert, key, -, -, hacceptor⟩ := h.acceptor_eq
  rw [hacceptor] at he
  exact isAboutFile_of_loadServer he

/-- **An acceptor is a matter of the files that it needs.** -/
theorem Complete.acceptor_congr (h : t.Complete)
    (hsame : ∀ path ∈ t.files, disk'.resolve path = disk.resolve path) :
    acceptor disk' t crypto = acceptor disk t crypto := by
  obtain ⟨cert, key, hcert, hkey, hacceptor⟩ := h.acceptor_eq
  have hmem : ∀ path, path = cert ∨ path = key ∨ path ∈ t.authority? → path ∈ t.files := by
    intro path hpath
    simpa [files, hcert, hkey, eq_comm] using hpath
  rw [hacceptor, hacceptor]
  exact loadServer_congr (hsame _ (hmem _ (.inl rfl))) (hsame _ (hmem _ (.inr (.inl rfl))))
    fun path hpath => hsame _ (hmem _ (.inr (.inr hpath)))

/-- **The rules for inbound links are broken exactly if the acceptor misses a path.** -/
theorem validate_ne_ok_iff (henabled : t.enabled = true) (disk : Disk) (crypto : Cryptography) :
    t.validate ≠ .ok () ↔ ∃ e, acceptor disk t crypto = .error e ∧ IsMissingPath e := by
  rw [ne_eq, validate_eq_ok_iff]
  constructor
  · exact fun h => exists_isMissingPath (fun hcomplete => h fun _ => hcomplete) disk crypto
  · -- the acceptor has all its paths if the rules are kept, so whatever it reports is about a file
    rintro ⟨e, he, hmissing⟩ hcomplete
    exact ((hcomplete henabled).isAboutFile he).not_isMissingPath hmissing

end Config.Tls

end SensorGateway
