import SensorGateway.Text.Blank

/-!
Spellings of whole numbers.

A natural number is written with ASCII digits and may carry one plus sign; leading zeros count for
nothing, so the bound is checked on the value and never on the length. A signed number may carry
a minus sign instead. The readers take characters, so that laws about them are laws about lists.
-/

set_option autoImplicit false

namespace SensorGateway.Text

/-! ## Digits -/

/-- The value of an ASCII digit in the given base (at most 36), letters in either case. -/
def digitValue? (base : Nat) (c : Char) : Option Nat :=
  let n := c.toNat
  let v :=
    if 0x30 ≤ n && n ≤ 0x39 then n - 0x30
    else if 0x61 ≤ n && n ≤ 0x7A then n - 0x61 + 10
    else if 0x41 ≤ n && n ≤ 0x5A then n - 0x41 + 10
    else base
  if v < base then some v else none

/-- Reads on from the value `acc` of the digits in front. -/
def digitsFrom (base acc : Nat) : List Char → Option Nat
  | [] => some acc
  | c :: cs =>
    match digitValue? base c with
    | some d => digitsFrom base (acc * base + d) cs
    | none => none

/-- **A digit string has one digit or more and nothing else.** -/
def digits? (base : Nat) : List Char → Option Nat
  | [] => none
  | c :: cs => digitsFrom base 0 (c :: cs)

/-! ## Signs and bounds -/

/-- **A natural number: an optional plus sign and decimal digits, with a value of at most `max`.** -/
def natural? (max : Nat) (cs : List Char) : Option Nat :=
  let body := match cs with
    | '+' :: rest => rest
    | _ => cs
  (digits? 10 body).filter (· ≤ max)

/-- An integer between `lo` and `hi`: an optional sign and decimal digits. -/
def integer? (lo hi : Int) (cs : List Char) : Option Int :=
  let value : Option Int := match cs with
    | '-' :: rest => (digits? 10 rest).map fun n => -(n : Int)
    | '+' :: rest => (digits? 10 rest).map Int.ofNat
    | _ => (digits? 10 cs).map Int.ofNat
  value.filter fun n => lo ≤ n && n ≤ hi

/-! ## Bounds of the machine words that numbers are kept in -/

/-- The largest 16-bit natural number. -/
def maxWord16 : Nat := 65535

/-- The largest 32-bit natural number. -/
def maxWord32 : Nat := 4294967295

/-- The largest 64-bit natural number. -/
def maxWord64 : Nat := 18446744073709551615

/-- The largest signed 64-bit number. -/
def maxSigned64 : Int := 9223372036854775807

/-- The least signed 64-bit number. -/
def minSigned64 : Int := -9223372036854775808

/-! ## Written forms -/

/-- The digits of `n` in lower case, in a base of at most 16. -/
def digitChars (base n : Nat) : List Char := Nat.toDigits base n

/-- Decimal digits of `n`, filled up with zeros in front to the given width. -/
def zeroPadded (width n : Nat) : String :=
  let ds := digitChars 10 n
  String.ofList (List.replicate (width - ds.length) '0' ++ ds)

end SensorGateway.Text
