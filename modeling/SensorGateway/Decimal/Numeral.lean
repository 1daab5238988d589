import SensorGateway.Binary.Format
import SensorGateway.Text.Number

/-!
Decimal numerals.

A numeral is an optional sign before one of the words `inf`, `infinity` and `nan` (in any letter
case), or before digits with at most one point, at least one digit, and an optional exponent. Its
value is exact; `Numeral.round` takes it to the nearest binary number in one step. A numeral whose
exponent puts it far outside every format is decided by the exponent alone, so that no huge power
of ten is computed.
-/

set_option autoImplicit false

namespace SensorGateway.Decimal

/-- A decimal numeral that has been read: `digits * 10 ^ exponent`, or one of the words. -/
inductive Numeral where
  | nan
  | infinite (negative : Bool)
  | finite (negative : Bool) (digits : Nat) (exponent : Int)
deriving DecidableEq, Repr

namespace Numeral

/-! ## Reading -/

/-- The leading decimal digits and what follows them. -/
def spanDigits (cs : List Char) : List Char × List Char := cs.span fun c => '0' ≤ c && c ≤ '9'

/-- The value of a list of decimal digits. -/
def value (ds : List Char) : Nat := ds.foldl (fun n c => n * 10 + (c.toNat - 48)) 0

/-- The exponent part: nothing, or the letter, an optional sign and one digit or more. -/
def exponent? : List Char → Option Int
  | [] => some 0
  | c :: cs =>
    if c = 'e' || c = 'E' then
      match cs with
      | '-' :: ds => (Text.digits? 10 ds).map fun n => -(n : Int)
      | '+' :: ds => (Text.digits? 10 ds).map Int.ofNat
      | ds => (Text.digits? 10 ds).map Int.ofNat
    else none

/-- The digits and the exponent of a numeral without a sign. -/
def unsigned? (negative : Bool) (cs : List Char) : Option Numeral :=
  let (whole, rest) := spanDigits cs
  let (part, rest) := match rest with
    | '.' :: tail => spanDigits tail
    | _ => ([], rest)
  if whole.isEmpty && part.isEmpty then none
  else (exponent? rest).map fun e => .finite negative (value (whole ++ part)) (e - part.length)

/-- **Reads a numeral; the whole text has to belong to it.** -/
def read? (s : String) : Option Numeral :=
  let (negative, cs) := match s.toList with
    | '-' :: cs => (true, cs)
    | '+' :: cs => (false, cs)
    | cs => (false, cs)
  let word := String.ofList (cs.map Char.toLower)
  if word = "inf" || word = "infinity" then some (.infinite negative)
  else if word = "nan" then some .nan
  else unsigned? negative cs

/-! ## Rounding -/

/-- Powers of ten beyond this exponent leave every format at once. -/
def exponentBound : Nat := 5000

/-- The numeral as a ratio of naturals, cut at `exponentBound`. -/
def ratio (digits : Nat) (exponent : Int) : Nat × Nat :=
  let length : Int := (Nat.toDigits 10 digits).length
  if digits = 0 then (0, 1)
  else if exponent + length > exponentBound then (Nat.pow 10 exponentBound, 1)
  else if exponent + length < -exponentBound then (1, Nat.pow 10 exponentBound)
  else match exponent with
    | .ofNat k => (digits * Nat.pow 10 k, 1)
    | .negSucc k => (digits, Nat.pow 10 (k + 1))

/-- **The binary number nearest to a numeral.** -/
def round {f : BinaryFormat} : Numeral → Binary f
  | nan => Binary.nan
  | infinite negative => Binary.withSign negative f.infinityBits
  | finite negative digits e =>
    let (num, den) := ratio digits e
    Binary.ofRatio negative num den

end Numeral

end SensorGateway.Decimal
