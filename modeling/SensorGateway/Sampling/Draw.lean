import SensorGateway.Text.Number

/-!
Uniform draws from random words.

A word of 32 bits is scaled to the range by a product of 64 bits, whose upper half is the value. The
lower half tells whether the word belongs to the part of the words that the range divides evenly; a
word that does not is rejected and the next one is tried.

Words come from a finite list that is gone through in circles, so a draw that rejects every word of
the list once rejects all there will ever be, and ends with nothing.
-/

set_option autoImplicit false

namespace SensorGateway.Sampling

/-- The integers from `low` up to, but not including, `high`. -/
structure DrawRange where
  low : Int
  high : Int
deriving DecidableEq, Repr

/-- Random words, gone through in circles, and how many of them have been used. -/
structure WordSource where
  words : List UInt32
  used : Nat := 0
deriving DecidableEq, Repr

/-- Why nothing was drawn. -/
inductive DrawFault where
  | emptyRange
  | wordsExhausted
deriving DecidableEq, Repr

/-- The wording of a fault. -/
def DrawFault.message : DrawFault → String
  | emptyRange => "cannot sample empty range"
  | wordsExhausted => "rng words exhausted"

namespace DrawRange

/-- How many integers there are in the range. -/
def size (r : DrawRange) : Nat := (r.high - r.low).toNat

/-- The greatest lower half that is accepted: the size is shifted up until it fills 32 bits. -/
def zone (r : DrawRange) : Nat := r.size * Nat.pow 2 (31 - r.size.log2) - 1

/-- **The value that a word draws,** if it is accepted. -/
def accept? (r : DrawRange) (word : UInt32) : Option Int :=
  let product := word.toNat * r.size
  if product % Nat.pow 2 32 ≤ r.zone then some (r.low + (product / Nat.pow 2 32 : Nat)) else none

end DrawRange

namespace WordSource

/-- The next word, and the source behind it. -/
def next? (s : WordSource) : Option (UInt32 × WordSource) :=
  match s.words[s.used % s.words.length]? with
  | some w => some (w, { s with used := s.used + 1 })
  | none => none

/-- Tries at most `tries` words. -/
def drawWithin (r : DrawRange) : Nat → WordSource → Except DrawFault (Int × WordSource)
  | 0, _ => .error .wordsExhausted
  | tries + 1, s =>
    match s.next? with
    | none => .error .wordsExhausted
    | some (w, s) =>
      match r.accept? w with
      | some value => .ok (value, s)
      | none => drawWithin r tries s

/-- **Draws an integer of a range.** -/
def draw (s : WordSource) (r : DrawRange) : Except DrawFault (Int × WordSource) :=
  if r.size = 0 then .error .emptyRange else drawWithin r s.words.length s

end WordSource

end SensorGateway.Sampling
