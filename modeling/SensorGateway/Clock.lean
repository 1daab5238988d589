/-!
Time.

The gateway reads two clocks. The wall clock dates what it shows and stores; the steady clock, which
nobody sets, measures how long a session has been idle and when a loop is due. Both count
milliseconds.
-/

set_option autoImplicit false

namespace SensorGateway

/-- What both clocks show. -/
structure Moment where
  /-- Milliseconds from 1 January 1970. -/
  wall : Int
  /-- Milliseconds from the start of the gateway. -/
  steady : Nat
deriving DecidableEq, Repr

namespace Moment

/-- The full seconds that the wall clock shows. -/
def seconds (t : Moment) : Int := t.wall.fdiv 1000

/-- The moment a number of milliseconds later. -/
def after (t : Moment) (ms : Nat) : Moment := ⟨t.wall + ms, t.steady + ms⟩

end Moment

/-- **A length of time in milliseconds,** shown in the largest unit that leaves a whole part: seconds
from one second on, and fractions of the unit as far as there are any. -/
def durationText (ms : Nat) : String :=
  let fraction (n : Nat) : String :=
    let digits := (Nat.toDigits 10 (1000 + n)).drop 1
    let kept := (digits.reverse.dropWhile (· = '0')).reverse
    if kept.isEmpty then "" else "." ++ String.ofList kept
  if 1000 ≤ ms then toString (ms / 1000) ++ fraction (ms % 1000) ++ "s"
  else if 0 < ms then toString ms ++ "ms"
  else "0ns"

end SensorGateway
