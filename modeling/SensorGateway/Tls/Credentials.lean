import SensorGateway.Config.Settings
import SensorGateway.GatewayError
import SensorGateway.Tls.Pem

/-!
Loading credentials.

Inbound links need a chain of certificates and a key, and the certificates of an authority if nodes
have to show certificates of their own. Outbound links need, unless every peer is trusted, the
certificates of an authority if one is named, and a chain and a key if both are named. Files are read
in that order, and the first that cannot be used is reported.

Whether certificates and keys that have been read are good for anything is for cryptography to say.
It is given the bytes of the files, and what it finds wrong comes in its own words.
-/

set_option autoImplicit false

namespace SensorGateway.Tls

/-- **What cryptography finds wrong** with files that have been read, if anything. -/
structure Cryptography where
  /-- With a certificate of an authority. -/
  authority? : List UInt8 → Option String := fun _ => none
  /-- With authorities that the certificates of nodes are to be checked against. -/
  verifier? : List UInt8 → Option String := fun _ => none
  /-- With a chain and a key for inbound links. -/
  server? : List UInt8 → List UInt8 → Option String := fun _ _ => none
  /-- With a chain and a key for outbound links. -/
  client? : List UInt8 → List UInt8 → Option String := fun _ _ => none

/-! ## Files -/

/-- What a file was loaded for. -/
inductive CredentialKind where
  | certificates
  | key
deriving DecidableEq, Repr

/-- How a file of a kind is called in messages. -/
def CredentialKind.text : CredentialKind → String
  | certificates => "cert file"
  | key => "key file"

/-- The bytes of a credential file and its sections. -/
def loadSections (disk : Disk) (kind : CredentialKind) (path : String) :
    Except GatewayError (List UInt8 × List SectionKind × Option PemError) :=
  let file := kind.text ++ " " ++ Text.quoted path ++ ": "
  match disk.resolve path with
  | .error fault => .error (.tlsConfig ("cannot open " ++ file ++ fault.message))
  | .ok _ =>
    -- A directory can be opened, but not read.
    match disk.read path with
    | .error fault => .error (.tlsConfig ("invalid " ++ file ++ fault.message))
    | .ok bytes => .ok (bytes, sectionsOf bytes)

/-- The error of a malformed credential file. -/
def malformed (kind : CredentialKind) (path : String) (e : PemError) : GatewayError :=
  .tlsConfig ("invalid " ++ kind.text ++ " " ++ Text.quoted path ++ ": " ++ e.message)

/-- **Loads certificates:** the whole file has to be well formed and hold at least one. -/
def loadCertificates (disk : Disk) (path : String) : Except GatewayError (List UInt8) :=
  match loadSections disk .certificates path with
  | .error e => .error e
  | .ok (_, _, some e) => .error (malformed .certificates path e)
  | .ok (bytes, kinds, none) =>
    if kinds.contains .certificate then .ok bytes
    else .error (.tlsConfig ("no certificates found in " ++ Text.quoted path))

/-- **Loads a private key:** the first one of the file, which is read no further. -/
def loadKey (disk : Disk) (path : String) : Except GatewayError (List UInt8) :=
  match loadSections disk .key path with
  | .error e => .error e
  | .ok (bytes, kinds, fault) =>
    if kinds.contains .privateKey then .ok bytes
    else match fault with
      | some e => .error (malformed .key path e)
      | none => .error (.tlsConfig ("no private key found in " ++ Text.quoted path))

/-- An error in the words of cryptography, if it has found something wrong. -/
def refuse (front : String) : Option String → Except GatewayError Unit
  | some words => .error (.tlsConfig (front ++ words))
  | none => .ok ()

/-- Loads the certificates of an authority. -/
def loadAuthorities (crypto : Cryptography) (disk : Disk) (path : String) :
    Except GatewayError (List UInt8) := do
  let bytes ← loadCertificates disk path
  refuse ("invalid CA cert " ++ Text.quoted path ++ ": ") (crypto.authority? bytes)
  return bytes

/-- Loads the certificates that those of nodes are checked against. -/
def loadVerifier (crypto : Cryptography) (disk : Disk) (path : String) :
    Except GatewayError Unit := do
  let bytes ← loadAuthorities crypto disk path
  refuse "failed to build client verifier: " (crypto.verifier? bytes)

/-! ## Inbound links -/

/-- Loads from a path if there is one. -/
def loadIfNamed (load : String → Except GatewayError Unit) :
    Option String → Except GatewayError Unit
  | some path => load path
  | none => .ok ()

/-- **Loads what inbound links need:** a chain and a key, and the authority of nodes if one is
named. -/
def loadServer (crypto : Cryptography) (disk : Disk) (cert key : String) (ca : Option String) :
    Except GatewayError Unit := do
  let chain ← loadCertificates disk cert
  let secret ← loadKey disk key
  loadIfNamed (loadVerifier crypto disk) ca
  refuse "invalid server cert/key: " (crypto.server? chain secret)

/-- **The credentials of inbound links.** Missing paths are reported before any file is read. -/
def acceptor (disk : Disk) (c : Config.Tls) (crypto : Cryptography := {}) :
    Except GatewayError Unit :=
  match c.certPath, c.keyPath with
  | none, _ => .error (.tlsConfig "cert_path not set")
  | some _, none => .error (.tlsConfig "key_path not set")
  | some cert, some key =>
    match c.requireClientCert, c.clientCaPath with
    | true, none => .error (.tlsConfig "client_ca_path not set for mTLS")
    | required, ca => loadServer crypto disk cert key (if required then ca else none)

/-! ## Outbound links -/

/-- Whose certificates outbound links accept. -/
inductive Trust where
  | anyone
  /-- Those that the public web roots vouch for. -/
  | webRoots
  /-- Those that the authorities of a file vouch for. -/
  | authorities (certificates : List UInt8)
deriving DecidableEq, Repr

/-- A chain of certificates and the key that goes with it. -/
structure Identity where
  chain : List UInt8
  key : List UInt8
deriving DecidableEq, Repr

/-- **What outbound links are encrypted with:** whom they trust, and what they show to a peer that
asks for certificates. -/
structure Connector where
  trust : Trust
  identity : Option Identity
deriving DecidableEq, Repr

/-- Loads the authorities of a file, if one is named. -/
def loadTrust (crypto : Cryptography) (disk : Disk) : Option String → Except GatewayError Trust
  | some ca => (loadAuthorities crypto disk ca).map .authorities
  | none => .ok .webRoots

/-- Loads a chain and its key. -/
def loadIdentity (crypto : Cryptography) (disk : Disk) (cert key : String) :
    Except GatewayError Identity := do
  let chain ← loadCertificates disk cert
  let secret ← loadKey disk key
  refuse "invalid client cert/key: " (crypto.client? chain secret)
  return ⟨chain, secret⟩

/-- **The credentials of outbound links.** A gateway that trusts every peer reads no file. -/
def connector (disk : Disk) (c : Config.ClientTls) (crypto : Cryptography := {}) :
    Except GatewayError Connector :=
  if c.insecure then .ok ⟨.anyone, none⟩
  else do
    let trust ← loadTrust crypto disk c.caPath
    match c.certPath, c.keyPath with
    | some cert, some key => do
      let identity ← loadIdentity crypto disk cert key
      return ⟨trust, some identity⟩
    | _, _ => return ⟨trust, none⟩

end SensorGateway.Tls
