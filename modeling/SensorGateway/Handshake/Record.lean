import SensorGateway.Net.Address
import SensorGateway.Text.Utf8

/-!
The handshake record.

A sensor node introduces itself with 24 bytes: a number that is carried along unread, the address it
believes to have in a field of 16 bytes that a zero byte ends, and its port.

```text
| handle            | address                  | port              |
| 4 bytes, LE       | 16 bytes, zero-ended     | 4 bytes, LE       |
```

Both numbers are signed and little endian. What stands behind the first zero byte of the address is
padding that a sender need not clear; a writer clears it.
-/

set_option autoImplicit false

namespace SensorGateway.Handshake

/-! ## Layout -/

/-- Bytes of the address field. -/
def addressField : Nat := 16

/-- The longest address: one byte of the field is the zero byte that ends it. -/
def maxAddress : Nat := addressField - 1

/-- Bytes of a record. -/
def recordSize : Nat := 4 + addressField + 4

/-- What a node tells about itself. -/
structure Record where
  /-- A number that older nodes send; it is kept and never used. -/
  handle : Int32 := 0
  address : String
  port : UInt16
deriving DecidableEq

/-- Why bytes are no record, or why a record has no bytes. -/
inductive RecordError where
  | short (actual : Nat)
  | addressTooLong (length : Nat)
  | unterminatedAddress
  | invalidUtf8
  | portOutOfRange (port : Int)
deriving DecidableEq, Repr

namespace RecordError

/-- The wording of an error. -/
def message : RecordError → String
  | short actual =>
    "short handshake record: expected " ++ toString recordSize ++ " bytes, got " ++ toString actual
  | addressTooLong length =>
    "address too long: " ++ toString length ++ " bytes (max " ++ toString maxAddress ++ ")"
  | unterminatedAddress => "address field is not NUL-terminated"
  | invalidUtf8 => "invalid UTF-8 in address field"
  | portOutOfRange port => "port out of range: " ++ toString port

end RecordError

/-! ## Numbers -/

/-- The four bytes of a word, the lowest first. -/
def wordBytes (w : UInt32) : List UInt8 :=
  [w.toUInt8, (w >>> 8).toUInt8, (w >>> 16).toUInt8, (w >>> 24).toUInt8]

/-- The word of up to four bytes, the lowest first. -/
def bytesWord (bs : List UInt8) : UInt32 := bs.foldr (fun b w => (w <<< 8) ||| b.toUInt32) 0

namespace Record

/-! ## Writing -/

/-- **The bytes of a record,** unless its address does not fit. -/
def encode (r : Record) : Except RecordError (List UInt8) :=
  let address := Text.utf8 r.address
  if maxAddress < address.length then .error (.addressTooLong address.length)
  else .ok (wordBytes r.handle.toUInt32 ++ address
    ++ List.replicate (addressField - address.length) 0 ++ wordBytes r.port.toUInt32)

/-! ## Reading -/

/-- The bytes in front of the first zero byte, if there is one. -/
def untilZero? (field : List UInt8) : Option (List UInt8) :=
  if field.any (· == 0) then some (field.takeWhile (· != 0)) else none

/-- **Reads a record.** The length is checked first, then the end of the address, its encoding, and
the port; the first check that fails gives the error. -/
def decode (bytes : List UInt8) : Except RecordError Record :=
  if bytes.length ≠ recordSize then .error (.short bytes.length)
  else
    let handle := (bytesWord (bytes.take 4)).toInt32
    let port := (bytesWord (bytes.drop (4 + addressField))).toInt32.toInt
    match untilZero? ((bytes.drop 4).take addressField) with
    | none => .error .unterminatedAddress
    | some field =>
      match Text.ofUtf8? field with
      | none => .error .invalidUtf8
      | some address =>
        if 0 ≤ port && port ≤ Text.maxWord16 then .ok ⟨handle, address, port.toNat.toUInt16⟩
        else .error (.portOutOfRange port)

/-- The address as the address of a host, where it is one. -/
def ip? (r : Record) : Option Net.IpAddress := Net.IpAddress.parse? r.address

end Record

end SensorGateway.Handshake
