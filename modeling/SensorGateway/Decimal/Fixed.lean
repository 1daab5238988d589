import SensorGateway.Binary.Format
import SensorGateway.Text.Number

/-!
Decimal text with a fixed number of places.

The exact value of the binary number is rounded to the places, a tie to the even digit, and the
sign of the number is written even where every digit is zero. No exponent is ever written.
-/

set_option autoImplicit false

namespace SensorGateway.Decimal

/-- The text of a natural number of units of the last place. -/
def placesText (places units : Nat) : String :=
  let whole := units / Nat.pow 10 places
  let part := units % Nat.pow 10 places
  toString whole ++ (if places = 0 then "" else "." ++ Text.zeroPadded places part)

/-- **A binary number with the given count of decimal places.** -/
def fixed {f : BinaryFormat} (places : Nat) (x : Binary f) : String :=
  match x.decode with
  | .nan => "NaN"
  | .infinite negative => if negative then "-inf" else "inf"
  | .finite negative m e =>
    let (num, den) := Binary.scaled (m * Nat.pow 10 places) 1 e
    (if negative then "-" else "") ++ placesText places (Binary.roundHalfEven num den)

end SensorGateway.Decimal
