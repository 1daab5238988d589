import SensorGateway.Session.Basic

/-!
The roster: what the lock of the session table protects.

It lists the registered sessions, the newest first, beside a count of them, the next number to give
out, and the port that the gateway runs on. Each operation here is one step under the lock. Permits
are none of the roster's business: the table takes one before a session is entered and gives one
back for each session that is taken out.
-/

set_option autoImplicit false

namespace SensorGateway

/-- The registered sessions. -/
structure Roster where
  /-- The sessions, the newest first. -/
  sessions : List Session := []
  /-- How many sessions there are. A count of 32 bits does not overflow where `Nat` goes on: sessions
  of nodes are connected when they come, and of these a table holds one for each port, 65536 at most
  (`Proofs/Session/Ports`). -/
  activeCount : Nat := 0
  /-- The port that the gateway listens on, 0 before it does. -/
  runningPort : UInt16 := 0
  /-- The next number of the monotonic policy. -/
  nextId : UInt32 := 0
deriving DecidableEq, Repr

namespace Roster

/-! ## Looking -/

/-- The newest session with a number. -/
def find? (r : Roster) (id : SensorId) : Option Session := r.sessions.find? (·.sensor = id)

/-- The newest session that is connected and reports a port. -/
def connectedOnPort? (r : Roster) (port : UInt16) : Option SensorId :=
  (r.sessions.find? fun s => s.port = port && s.status = .connected).map (·.sensor)

/-- The numbers of the active sessions, the newest first. -/
def activeIds (r : Roster) : List SensorId := (r.sessions.filter (·.active)).map (·.sensor)

/-! ## Entering -/

/-- The number that the next session gets. -/
def assignedId (r : Roster) : IdPolicy → SensorId
  | .monotonic => ⟨r.nextId⟩
  | .reuseSlot => ⟨r.activeCount.toUInt32⟩

/-- A session with its number, its slot and the placeholder reading. -/
def numbered (r : Roster) (policy : IdPolicy) (s : Session) (now : Moment) : Session :=
  let id := r.assignedId policy
  { s with sensor := id, slot := r.activeCount, latest := Reading.initial id now.seconds }

/-- **Enters a session at the front.** -/
def push (r : Roster) (policy : IdPolicy) (s : Session) (now : Moment) : Roster :=
  { r with
    sessions := r.numbered policy s now :: r.sessions
    activeCount := r.activeCount + 1
    nextId := match policy with
      | .monotonic => r.nextId + 1
      | .reuseSlot => r.nextId }

/-! ## Taking out -/

/-- Splits off the first element that a test holds of. -/
def splitFirst {α : Type} (p : α → Bool) : List α → Option (α × List α)
  | [] => none
  | x :: xs =>
    if p x then some (x, xs)
    else match splitFirst p xs with
      | some (y, ys) => some (y, x :: ys)
      | none => none

/-- **Takes out the first session that a test holds of.** -/
def take? (r : Roster) (p : Session → Bool) : Option (Session × Roster) :=
  match splitFirst p r.sessions with
  | some (s, rest) => some (s, { r with sessions := rest, activeCount := r.activeCount - 1 })
  | none => none

/-- Whether a session is active and has been idle for more than the timeout. -/
def expired (steady timeout : Nat) (s : Session) : Bool := s.active && timeout < s.idleFor steady

/-- Takes out the session at an index. -/
def dropAt (r : Roster) (index : Nat) : Roster :=
  { r with sessions := r.sessions.eraseIdx index, activeCount := r.activeCount - 1 }

/-- **The loop of a sweep,** from an index on. A session that passes the test is taken out where it
stands, so the one behind it comes to the same index; the index moves on only past a session that
stays. `gone` are those that were taken out before. -/
def takeFrom (p : Session → Bool) (index : Nat) (r : Roster) (gone : List Session) :
    List Session × Roster :=
  if h : index < r.sessions.length then
    if p r.sessions[index] then takeFrom p index (r.dropAt index) (gone ++ [r.sessions[index]])
    else takeFrom p (index + 1) r gone
  else (gone, r)
termination_by r.sessions.length - index
decreasing_by
  · simp only [dropAt, List.length_eraseIdx, if_pos h]
    omega
  · omega

/-- **Takes out every expired session,** in the order of the roster. -/
def takeExpired (r : Roster) (steady timeout : Nat) : List Session × Roster :=
  r.takeFrom (expired steady timeout) 0 []

/-- Takes out every session. -/
def takeAll (r : Roster) : List Session × Roster :=
  (r.sessions, { r with sessions := [], activeCount := 0 })

/-! ## Changing -/

/-- Applies `f` to the first element that a test holds of. -/
def adjustFirst {α : Type} (p : α → Bool) (f : α → α) : List α → List α
  | [] => []
  | x :: xs => if p x then f x :: xs else x :: adjustFirst p f xs

/-- **Notes a reading at the newest session with a number,** if there is one. -/
def update? (r : Roster) (id : SensorId) (reading : Reading) (now : Moment) : Option Roster :=
  match r.find? id with
  | some _ =>
    some { r with sessions := adjustFirst (·.sensor = id) (·.hear reading now) r.sessions }
  | none => none

end Roster

end SensorGateway
