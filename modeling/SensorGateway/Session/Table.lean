import SensorGateway.Admission.Ledger
import SensorGateway.Session.Roster

/-!
The session table.

It joins the roster with the admission ledger. Their locks are never held together, so each
operation is a run of steps: an insert takes a permit, then enters the session or finds its port
taken, and in the second case gives the permit back; every way of leaving first takes sessions out
of the roster and then gives back one permit for each of them. The steps are functions of their own,
and the operations are their compositions.

Letting go of a session's ticket closes its link. The table keeps the tickets that it has let go, so
that a link task can see that its link is to be closed.
-/

set_option autoImplicit false

namespace SensorGateway

/-- Why a session was turned away. -/
inductive InsertError where
  | admissionDenied (address : String)
  | duplicatePort (port : UInt16) (existing : SensorId)
deriving DecidableEq, Repr

namespace InsertError

/-- The wording of an error. -/
def message : InsertError → String
  | admissionDenied address => "connection limit reached for " ++ address
  | duplicatePort port existing =>
    "port " ++ toString port ++ " already has a connected session (" ++ existing.text ++ ")"

/-- The label that rejections are counted under. -/
def reason : InsertError → String
  | admissionDenied _ => "admission"
  | duplicatePort .. => "duplicate_port"

end InsertError

/-- The sessions and the permits they hold. -/
structure Table where
  policy : IdPolicy
  ledger : Admission.Ledger
  roster : Roster := {}
  /-- The tickets of links that the table has let go, the latest first. -/
  released : List Ticket := []
deriving DecidableEq, Repr

namespace Table

/-! ## Steps -/

/-- Takes a permit. -/
def permit? (t : Table) (address : String) : Option Table :=
  match t.ledger.allow? address with
  | some l => some { t with ledger := l }
  | none => none

/-- Gives a permit back. -/
def giveBack (t : Table) (address : String) : Table := { t with ledger := t.ledger.release address }

/-- Lets go of the link of a session. -/
def letGo (t : Table) (s : Session) : Table := { t with released := s.link.toList ++ t.released }

/-- **Enters a session that holds a permit,** unless a connected session reports the same port. -/
def enter (t : Table) (s : Session) (now : Moment) : Except InsertError (SensorId × Table) :=
  match t.roster.connectedOnPort? s.port with
  | some existing => .error (.duplicatePort s.port existing)
  | none => .ok (t.roster.assignedId t.policy, { t with roster := t.roster.push t.policy s now })

/-- The last steps for a session that was taken out: its permit goes back and its link is let go. -/
def tearDown (t : Table) (s : Session) (status : LinkStatus) : Session × Table :=
  (s.ended status, (t.giveBack s.address).letGo s)

/-- `tearDown` for each session of a list, in order. -/
def tearDownAll (t : Table) (status : LinkStatus) : List Session → List Session × Table
  | [] => ([], t)
  | s :: rest =>
    let (s, t) := t.tearDown s status
    let (gone, t) := tearDownAll t status rest
    (s :: gone, t)

/-! ## Operations -/

/-- **Inserts a session.** A session that is turned away lets go of its link and leaves roster and
counts as they were. -/
def insert (t : Table) (s : Session) (now : Moment) : Except InsertError SensorId × Table :=
  match t.permit? s.address with
  | none => (.error (.admissionDenied s.address), t.letGo s)
  | some t =>
    match t.enter s now with
    | .ok (id, t) => (.ok id, t)
    | .error e => (.error e, (t.giveBack s.address).letGo s)

/-- Takes out the first session that a test holds of, as disconnected. -/
def removeWhere (t : Table) (p : Session → Bool) : Option Session × Table :=
  match t.roster.take? p with
  | none => (none, t)
  | some (s, r) =>
    let (s, t) := { t with roster := r }.tearDown s .disconnected
    (some s, t)

/-- **Removes the newest session with a number.** -/
def remove (t : Table) (id : SensorId) : Option Session × Table := t.removeWhere (·.sensor = id)

/-- **Removes the session that owns a link.** -/
def removeLink (t : Table) (ticket : Ticket) : Option Session × Table :=
  t.removeWhere (·.link = some ticket)

/-- **Removes every active session that has been idle for more than the timeout.** -/
def reapIdle (t : Table) (steady timeout : Nat) : List Session × Table :=
  let (gone, r) := t.roster.takeExpired steady timeout
  { t with roster := r }.tearDownAll .timedOut gone

/-- **Removes every session,** and answers how many there were. -/
def clear (t : Table) : Nat × Table :=
  let (gone, r) := t.roster.takeAll
  (gone.length, ({ t with roster := r }.tearDownAll .disconnected gone).2)

/-- **Notes a reading;** false if no session has the number. -/
def updateReading (t : Table) (id : SensorId) (reading : Reading) (now : Moment) : Bool × Table :=
  match t.roster.update? id reading now with
  | some r => (true, { t with roster := r })
  | none => (false, t)

/-- The newest session with a number. -/
def find? (t : Table) (id : SensorId) : Option Session := t.roster.find? id

/-- The registered sessions, the newest first. -/
def sessions (t : Table) : List Session := t.roster.sessions

/-- Whether a connected session reports a port. -/
def portInUse (t : Table) (port : UInt16) : Bool := (t.roster.connectedOnPort? port).isSome

/-- Notes the port that the gateway runs on. -/
def setRunningPort (t : Table) (port : UInt16) : Table :=
  { t with roster := { t.roster with runningPort := port } }

/-- How many sessions there are. -/
def activeCount (t : Table) : Nat := t.roster.activeCount

end Table

end SensorGateway
