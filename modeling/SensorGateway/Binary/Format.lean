/-!
Binary floating numbers, exactly.

A number of an interchange format is its bit pattern. `decode` reads the pattern as a sign and an
integer times a power of two, and `ofRatio` goes the other way: it rounds an exact ratio of naturals
to the nearest pattern, a tie to the even one. Both are arithmetic on naturals, so every
number the gateway averages, compares, stores or prints has a meaning that a proof can compute.

The rounding needs no case split between normal and subnormal numbers: with the exponent clamped
from below, "exponent steps times `2 ^ fractionBits` plus significand" is the pattern in both cases,
and a carry out of the significand moves on into the exponent by itself.
-/

set_option autoImplicit false

namespace SensorGateway

/-- The widths of the two fields behind the sign. -/
structure BinaryFormat where
  /-- Bits of the exponent field. -/
  exponentBits : Nat
  /-- Bits of the fraction field. -/
  fractionBits : Nat
deriving DecidableEq, Repr

namespace BinaryFormat

/-- The 32-bit format of temperatures. -/
def single : BinaryFormat := ⟨8, 23⟩

/-- The 64-bit format of database columns and of numbers in text. -/
def double : BinaryFormat := ⟨11, 52⟩

/-- The exponent of the last place of the least numbers. -/
def minExponent (f : BinaryFormat) : Int := 2 - (Nat.pow 2 (f.exponentBits - 1) : Nat) - f.fractionBits

/-- The pattern of positive infinity. -/
def infinityBits (f : BinaryFormat) : Nat := (Nat.pow 2 f.exponentBits - 1) * Nat.pow 2 f.fractionBits

/-- The place of the sign bit. -/
def signPlace (f : BinaryFormat) : Nat := Nat.pow 2 (f.exponentBits + f.fractionBits)

end BinaryFormat

/-- A number of the format: its bit pattern. -/
structure Binary (f : BinaryFormat) where
  /-- The bit pattern. -/
  bits : Nat
deriving DecidableEq, Repr

/-- A temperature in degrees Celsius. -/
abbrev Temperature := Binary .single

/-- What a bit pattern stands for. A finite number is `significand * 2 ^ exponent` with a sign, and
zero keeps its sign. -/
inductive Magnitude where
  | nan
  | infinite (negative : Bool)
  | finite (negative : Bool) (significand : Nat) (exponent : Int)
deriving DecidableEq, Repr

namespace Binary

variable {f : BinaryFormat}

/-! ## Reading a pattern -/

/-- The sign bit. -/
def negative (x : Binary f) : Bool := f.signPlace ≤ x.bits

/-- The pattern without its sign. -/
def unsigned (x : Binary f) : Nat := x.bits % f.signPlace

/-- **The number that a pattern stands for.** -/
def decode (x : Binary f) : Magnitude :=
  let field := x.unsigned / Nat.pow 2 f.fractionBits
  let fraction := x.unsigned % Nat.pow 2 f.fractionBits
  if x.unsigned = f.infinityBits then .infinite x.negative
  else if f.infinityBits < x.unsigned then .nan
  else if field = 0 then .finite x.negative fraction f.minExponent
  else .finite x.negative (Nat.pow 2 f.fractionBits + fraction) (f.minExponent + (field - 1 : Nat))

/-- Whether the pattern is no number. -/
def isNaN (x : Binary f) : Bool := f.infinityBits < x.unsigned

/-! ## Rounding an exact ratio -/

/-- **The nearest natural to `num / den`, a tie to the even one.** -/
def roundHalfEven (num den : Nat) : Nat :=
  let q := num / den
  let r := num % den
  if 2 * r < den then q else if den < 2 * r then q + 1 else q + q % 2

/-- `num / den` scaled by `2 ^ e`, as a ratio of naturals. -/
def scaled (num den : Nat) (e : Int) : Nat × Nat :=
  match e with
  | .ofNat k => (num * Nat.pow 2 k, den)
  | .negSucc k => (num, den * Nat.pow 2 (k + 1))

/-- The greatest `e` with `2 ^ e ≤ num / den`, for positive naturals. -/
def floorLog2 (num den : Nat) : Int :=
  let guess : Int := (num.log2 : Int) - den.log2
  let (n, d) := scaled num den (-guess)
  if d ≤ n then guess else guess - 1

/-- The pattern without a sign that is nearest to `num / den`. -/
def roundedBits (f : BinaryFormat) (num den : Nat) : Nat :=
  if num = 0 then 0
  else
    let e := max f.minExponent (floorLog2 num den - f.fractionBits)
    let (n, d) := scaled num den (-e)
    min f.infinityBits ((e - f.minExponent).toNat * Nat.pow 2 f.fractionBits + roundHalfEven n d)

/-- Puts a sign in front of a pattern without one. -/
def withSign (negative : Bool) (bits : Nat) : Binary f :=
  ⟨if negative then f.signPlace + bits else bits⟩

/-- **The number nearest to a ratio of naturals,** a tie to the even pattern, and infinity where the
ratio is too large for the format. -/
def ofRatio (negative : Bool) (num den : Nat) : Binary f := withSign negative (roundedBits f num den)

/-- The pattern of "no number" that computations answer with. -/
def nan : Binary f := ⟨f.infinityBits + Nat.pow 2 (f.fractionBits - 1)⟩

/-- The number nearest to a magnitude. -/
def encode : Magnitude → Binary f
  | .nan => nan
  | .infinite negative => withSign negative f.infinityBits
  | .finite negative m e =>
    let (n, d) := scaled m 1 e
    ofRatio negative n d

/-- The number nearest to an integer. -/
def ofInt (n : Int) : Binary f := ofRatio (n < 0) n.natAbs 1

/-- **The same number in another format,** rounded where the other format is narrower. -/
def convert {g : BinaryFormat} (x : Binary f) : Binary g := encode x.decode

end Binary

end SensorGateway
