/-!
Headers of encrypted messages.

Every message of an encrypted link starts with five bytes: its kind, its version in two bytes, and
the size of what follows in two more. A peer that does not encrypt is found out by them, mostly at
the first byte, since no printable character is a kind of message. Each part is judged as soon as it
has come, so the flaw that is named is the first one in the order of the bytes.
-/

set_option autoImplicit false

namespace SensorGateway.Tls

/-! ## The parts -/

/-- Whether a byte is a kind of message: five kinds are known. -/
def isMessageKind (kind : UInt8) : Bool := 0x14 ≤ kind && kind ≤ 0x18

/-- The kind of the messages that carry data; only these may be empty. -/
def dataKind : UInt8 := 0x17

/-- Whether a message can be of a version. Every version with the major number three is taken, and
so are the named versions that came before and beside it. -/
def isMessageVersion (major minor : UInt8) : Bool :=
  major == 3 || (major == 2 && minor == 0)
    || (major == 0xFE && (minor == 0xFF || minor == 0xFD || minor == 0xFC))

/-- One more than the greatest size of a message. -/
def messageLimit : Nat := 16384 + 2048

/-! ## Flaws -/

/-- What can be wrong with a header. -/
inductive HeaderFlaw where
  | kind
  | version
  | empty
  | tooLarge
deriving DecidableEq, Repr

/-- The name of a flaw. -/
def HeaderFlaw.name : HeaderFlaw → String
  | kind => "InvalidContentType"
  | version => "UnknownProtocolVersion"
  | empty => "InvalidEmptyPayload"
  | tooLarge => "MessageTooLarge"

/-- What is said of a flaw. -/
def HeaderFlaw.message (f : HeaderFlaw) : String := "received corrupt message of type " ++ f.name

/-- What is wrong with the size of a message of a kind. -/
def sizeFlaw? (kind : UInt8) (size : Nat) : Option HeaderFlaw :=
  if size = 0 && kind ≠ dataKind then some .empty
  else if messageLimit ≤ size then some .tooLarge
  else none

/-- **What is wrong with the first bytes of a link that should be encrypted,** as far as they have
come. -/
def headerFlaw? : List UInt8 → Option HeaderFlaw
  | [] => none
  | kind :: rest =>
    if !isMessageKind kind then some .kind
    else match rest with
      | major :: minor :: rest =>
        if !isMessageVersion major minor then some .version
        else match rest with
          | high :: low :: _ => sizeFlaw? kind (high.toNat * 256 + low.toNat)
          | _ => none
      | _ => none

/-- The message that tells a peer that it could not be understood. -/
def decodeAlert : List UInt8 := [0x15, 0x03, 0x03, 0x00, 0x02, 0x02, 0x32]

end SensorGateway.Tls
