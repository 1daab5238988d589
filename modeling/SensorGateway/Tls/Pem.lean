import SensorGateway.Text.Quoted
import SensorGateway.Text.Utf8

/-!
Credentials in text form.

A file of credentials holds sections between a line that begins and a line that ends them, in base 64.
Text outside of sections is passed over, and so are sections of an unknown kind. Sections are
read one by one, and the first that is malformed is the end of reading.
-/

set_option autoImplicit false

namespace SensorGateway.Tls

/-! ## Base 64 -/

/-- Why the text of a section is no base 64. -/
inductive Base64Error where
  | invalidCharacter (byte : UInt8)
  | prematurePadding
  | invalidTrailingPadding
deriving DecidableEq, Repr

/-- The name of an error. -/
def Base64Error.text : Base64Error → String
  | invalidCharacter byte => "InvalidCharacter(" ++ toString byte ++ ")"
  | prematurePadding => "PrematurePadding"
  | invalidTrailingPadding => "InvalidTrailingPadding"

/-- The characters of base 64. -/
def isBase64 (b : UInt8) : Bool := (Char.ofNat b.toNat).isAlphanum || b == 0x2B || b == 0x2F

/-- White space between the characters of base 64. -/
def isBase64Blank (b : UInt8) : Bool :=
  b == 0x20 || b == 0x09 || b == 0x0A || b == 0x0B || b == 0x0C || b == 0x0D

/-- The padding character. -/
def padding : UInt8 := 0x3D

/-- The blocks of four characters, each as the places where it is padded; the last may be short. -/
def blocks : List UInt8 → List (List Bool)
  | a :: b :: c :: d :: rest =>
    [a == padding, b == padding, c == padding, d == padding] :: blocks rest
  | [] => []
  | rest => [rest.map (· == padding)]

/-- Whether the last block may be padded as it is, or left short. -/
def endsWell (block : List Bool) : Bool :=
  block == [false, false, false, false] || block == [false, false, false, true]
    || block == [false, false, true, true] || block == [false, false, false]
    || block == [false, false]

/-- **Checks the text of a section.** Padding belongs to the last block, and may be left out. -/
def checkBase64 (bytes : List UInt8) : Except Base64Error Unit :=
  let significant := bytes.filter (!isBase64Blank ·)
  match significant.find? fun b => !(isBase64 b || b == padding) with
  | some b => .error (.invalidCharacter b)
  | none =>
    let bs := blocks significant
    if bs.dropLast.any (·.any id) then .error .prematurePadding
    else if bs.getLast?.all endsWell then .ok ()
    else .error .invalidTrailingPadding

/-! ## Sections -/

/-- The kinds of sections that are told apart. -/
inductive SectionKind where
  | certificate
  | privateKey
  | other
deriving DecidableEq, Repr

/-- The kind that a label names, if it is a known one. -/
def SectionKind.ofLabel? : String → Option SectionKind
  | "CERTIFICATE" => some certificate
  | "RSA PRIVATE KEY" => some privateKey
  | "PRIVATE KEY" => some privateKey
  | "EC PRIVATE KEY" => some privateKey
  | "PUBLIC KEY" => some other
  | "X509 CRL" => some other
  | "CERTIFICATE REQUEST" => some other
  | "ECHCONFIG" => some other
  | _ => none

/-- Why a section is malformed. -/
inductive PemError where
  | missingEnd (label : List UInt8)
  | illegalStart (line : List UInt8)
  | base64 (fault : Base64Error)
deriving DecidableEq, Repr

/-- Bytes as text, with a mark in place of each byte that is none. -/
def lossyText (bytes : List UInt8) : String :=
  match Text.ofUtf8? bytes with
  | some s => s
  | none => String.ofList (bytes.map fun b => if b < 0x80 then Char.ofNat b.toNat else '\ufffd')

/-- The wording of an error. -/
def PemError.message : PemError → String
  | missingEnd label => "section end " ++ Text.quoted (lossyText label) ++ " missing"
  | illegalStart line => "illegal section start: " ++ Text.quoted (lossyText line)
  | base64 fault => fault.text

/-- The lines of a file, each with the carriage return or line feed that ends it. -/
def lines (line : List UInt8) : List UInt8 → List (List UInt8)
  | [] => if line.isEmpty then [] else [line.reverse]
  | b :: bs =>
    if b == 0x0A || b == 0x0D then (b :: line).reverse :: lines [] bs else lines (b :: line) bs

/-- The start of a line that begins a section. -/
def beginMark : List UInt8 := Text.utf8 "-----BEGIN "

/-- The start of a line that ends a section with a label. -/
def endMark (label : List UInt8) : List UInt8 :=
  Text.utf8 "-----END " ++ label ++ Text.utf8 "-----"

/-- How many hyphens end a line, blanks aside, and how many bytes of the line they and the blanks
behind the first of them take; the line is given in reverse. -/
def trailer : (seen hyphens taken : Nat) → List UInt8 → Nat × Nat
  | _, hyphens, taken, [] => (hyphens, taken)
  | seen, hyphens, taken, b :: bs =>
    if b == 0x2D then trailer (seen + 1) (hyphens + 1) (seen + 1) bs
    else if b == 0x0A || b == 0x0D || b == 0x20 then trailer (seen + 1) hyphens taken bs
    else (hyphens, taken)

/-- The label of a line that begins a section. -/
def labelOf (line : List UInt8) : Except PemError (List UInt8) :=
  let (hyphens, taken) := trailer 0 0 0 line.reverse
  if hyphens = 5 then .ok ((line.take (line.length - taken)).drop beginMark.length)
  else .error (.illegalStart line)

/-- **Reads the next section** of a known kind, and the lines behind it. `label` is that of the open
section, and `body` its text so far. -/
def nextSection (label : Option (List UInt8)) (body : List UInt8) :
    List (List UInt8) → Except PemError (Option (SectionKind × List (List UInt8)))
  | [] => match label with
    | some l => .error (.missingEnd l)
    | none => .ok none
  | line :: rest =>
    if beginMark.isPrefixOf line then
      match labelOf line with
      | .error e => .error e
      | .ok l => nextSection (some l) body rest
    else
      match label with
      | none => nextSection none body rest
      | some l =>
        if (endMark l).isPrefixOf line then
          match SectionKind.ofLabel? (lossyText l) with
          | none => nextSection none [] rest
          | some kind => match checkBase64 body with
            | .error e => .error (.base64 e)
            | .ok () => .ok (some (kind, rest))
        else nextSection (some l) (body ++ line) rest

/-- **The kinds of all sections,** up to the first that is malformed. Each round goes over a line. -/
def sectionKinds : (fuel : Nat) → List (List UInt8) → List SectionKind × Option PemError
  | 0, _ => ([], none)
  | fuel + 1, ls =>
    match nextSection none [] ls with
    | .error e => ([], some e)
    | .ok none => ([], none)
    | .ok (some (kind, rest)) =>
      let (kinds, e) := sectionKinds fuel rest
      (kind :: kinds, e)

/-- The sections of a file. -/
def sectionsOf (bytes : List UInt8) : List SectionKind × Option PemError :=
  let ls := lines [] bytes
  sectionKinds (ls.length + 1) ls

end SensorGateway.Tls
