import SensorGateway.Binary.Format

/-!
Sums, quotients and comparisons of binary floating numbers.

Each operation computes the exact result and rounds it once. The two conventions that exactness
does not settle are the sign of zero (a sum that vanishes is positive unless both summands are
negative zeros) and comparisons with "no number", which are false.
-/

set_option autoImplicit false

namespace SensorGateway.Binary

variable {f : BinaryFormat}

/-! ## Sums and quotients -/

/-- The significand with its sign. -/
def signedSignificand (negative : Bool) (m : Nat) : Int := if negative then -(m : Int) else m

/-- **The sum, exact and then rounded once.** -/
def add (x y : Binary f) : Binary f :=
  match x.decode, y.decode with
  | .nan, _ => nan
  | _, .nan => nan
  | .infinite a, .infinite b => if a = b then withSign a f.infinityBits else nan
  | .infinite a, .finite .. => withSign a f.infinityBits
  | .finite .., .infinite b => withSign b f.infinityBits
  | .finite a m e, .finite b n d =>
    let low := min e d
    let s := signedSignificand a m * (Nat.pow 2 (e - low).toNat : Nat)
      + signedSignificand b n * (Nat.pow 2 (d - low).toNat : Nat)
    if s = 0 then withSign (a && b) 0
    else encode (.finite (s < 0) s.natAbs low)

/-- **The quotient of a number by a positive count,** exact and then rounded once. -/
def divNat (x : Binary f) (n : Nat) : Binary f :=
  match x.decode with
  | .nan => nan
  | .infinite a => withSign a f.infinityBits
  | .finite a m e =>
    let (num, den) := scaled m n e
    ofRatio a num den

/-! ## Order -/

/-- A key that orders the numbers apart from "no number": both zeros have the key 0. -/
def orderKey (x : Binary f) : Int := signedSignificand x.negative x.unsigned

/-- **Strictly less;** false where one side is no number. -/
def less (x y : Binary f) : Bool := !x.isNaN && !y.isNaN && x.orderKey < y.orderKey

end SensorGateway.Binary
