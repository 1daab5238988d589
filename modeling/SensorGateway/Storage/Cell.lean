import SensorGateway.Binary.Arithmetic
import SensorGateway.Decimal.Numeral

/-!
Cells of the database.

A cell holds nothing, a signed 64-bit integer, a 64-bit floating number or a text. A column has a
preference for a kind of number, and a value is brought to it when it is stored: a text that spells
a number becomes that number, in an integer column a whole floating number becomes an integer, and
in a floating column an integer becomes a floating number. A text that spells no number stays text.
"No number" is stored as nothing, and zero loses its sign.
-/

set_option autoImplicit false

namespace SensorGateway.Storage

/-- A floating number of the database. -/
abbrev Real64 := Binary .double

/-- What a cell holds. -/
inductive Cell where
  | null
  | integer (n : Int)
  | real (x : Real64)
  | text (s : String)
deriving DecidableEq, Repr

/-- The kind of number that a column prefers. -/
inductive Affinity where
  | integer
  | real
deriving DecidableEq, Repr

namespace Cell

/-- The word for the kind of a cell. -/
def kind : Cell → String
  | null => "Null"
  | integer _ => "Integer"
  | real _ => "Real"
  | text _ => "Text"

/-! ## Storing -/

/-- A floating number as a cell: no number is nothing, and zero has no sign. -/
def ofReal (x : Real64) : Cell :=
  if x.isNaN then null else if x.unsigned = 0 then real ⟨0⟩ else real x

/-- The integer that a floating number equals, if it equals one strictly inside the signed 64-bit
numbers. -/
def whole? (x : Real64) : Option Int :=
  match x.decode with
  | .finite negative m e =>
    let (num, den) := Binary.scaled m 1 e
    let n : Int := if negative then -((num / den : Nat) : Int) else (num / den : Nat)
    if num % den = 0 && Text.minSigned64 < n && n < Text.maxSigned64 then some n else none
  | _ => none

/-- Blanks that may stand around a number in a text. -/
def isPad (c : Char) : Bool :=
  c = ' ' || c = '\t' || c = '\n' || c = '\x0b' || c = '\x0c' || c = '\r'

/-- **The number that a text spells,** an integer where it is spelled as one and fits. The words for
infinity and for no number spell none. -/
def ofNumeral? (s : String) : Option Cell :=
  let inner := s.toList.dropWhile isPad |>.reverse |>.dropWhile isPad |>.reverse
  match Text.integer? Text.minSigned64 Text.maxSigned64 inner with
  | some n => some (integer n)
  | none =>
    match Decimal.Numeral.read? (String.ofList inner) with
    | some (.finite negative digits e) =>
      some (real (Decimal.Numeral.finite negative digits e).round)
    | _ => none

/-- A number brought to the preference of a column. -/
def bring : Affinity → Cell → Cell
  | .integer, real x => match whole? x with
    | some n => integer n
    | none => ofReal x
  | .real, integer n => ofReal (Binary.ofInt n)
  | _, real x => ofReal x
  | _, c => c

/-- **A value as a column stores it.** -/
def store (a : Affinity) : Cell → Cell
  | text s => match ofNumeral? s with
    | some c => bring a c
    | none => text s
  | c => bring a c

/-! ## Order -/

/-- The ratio that a finite number stands for, with its sign. -/
def compareRealInt (x : Real64) (n : Int) : Ordering :=
  match x.decode with
  | .nan => .lt
  | .infinite negative => if negative then .lt else .gt
  | .finite negative m e =>
    let (num, den) := Binary.scaled m 1 e
    compare (if negative then -(num : Int) else num) (n * den)

/-- Rank of a kind: nothing first, then numbers, then texts. -/
def rank : Cell → Nat
  | null => 0
  | integer _ => 1
  | real _ => 1
  | text _ => 2

/-- **The order of cells in a sorted answer.** Numbers of both kinds compare by exact value, and texts
by their code points. -/
def order : Cell → Cell → Ordering
  | integer a, integer b => compare a b
  | integer a, real b => (compareRealInt b a).swap
  | real a, integer b => compareRealInt a b
  | real a, real b => compare a.orderKey b.orderKey
  | text a, text b => compare a b
  | a, b => compare a.rank b.rank

end Cell

end SensorGateway.Storage
