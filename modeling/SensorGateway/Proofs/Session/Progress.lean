import SensorGateway.Proofs.Session.Operations

/-!
The operations of the session table, step by step.

The ledger and the roster have a lock each, and the two are never held together. So an operation is
a run of steps, each under one lock, and the steps of other operations may come in between: an
insert takes a permit, then enters its session or finds the port taken, and gives the permit back in
the second case; whoever takes sessions out then gives back one permit after the other.

`advance` is one such step. It is put together from the steps of the table, and `undisturbed_apply`
says that an operation whose steps nothing comes between does what the operation of the table does.
What a step does to sessions and permits is said once for all operations, by two laws:
`advance_conserves` follows the sessions that hold permits, `ledger_advance` the counts of the
ledger.
-/

set_option autoImplicit false

namespace SensorGateway.Table

/-- **How far an operation has come.** -/
inductive Progress where
  /-- It was called and has done nothing yet. -/
  | begun (op : Operation)
  /-- An insert holds a permit, and its session is to be entered. -/
  | permitted (s : Session) (now : Moment)
  /-- An insert has found its port taken, and its permit is to go back. -/
  | refused (s : Session)
  /-- Sessions were taken out, and their permits are to go back. -/
  | leaving (gone : List Session) (status : LinkStatus)
  /-- It is over; an insert that has entered its session knows the number of it. -/
  | finished (entered : Option SensorId)
deriving DecidableEq, Repr

/-- Whether an operation is over. -/
def Progress.isOver : Progress → Bool
  | finished _ => true
  | _ => false

/-! ## Steps -/

/-- Takes out the first session that a test holds of, if there is one. -/
def unlinkFirst (t : Table) (p : Session → Bool) : Progress × Table :=
  match t.roster.take? p with
  | none => (.finished none, t)
  | some (s, r) => (.leaving [s] .disconnected, { t with roster := r })

/-- The first step of an operation. -/
def start (t : Table) : Operation → Progress × Table
  | .insert s now =>
    match t.permit? s.address with
    | none => (.finished none, t.letGo s)
    | some t => (.permitted s now, t)
  | .remove id => t.unlinkFirst (·.sensor = id)
  | .removeLink ticket => t.unlinkFirst (·.link = some ticket)
  | .updateReading id reading now => (.finished none, (t.updateReading id reading now).2)
  | .reapIdle steady timeout =>
    let (gone, r) := t.roster.takeExpired steady timeout
    (.leaving gone .timedOut, { t with roster := r })
  | .clear =>
    let (gone, r) := t.roster.takeAll
    (.leaving gone .disconnected, { t with roster := r })
  | .setRunningPort port => (.finished none, t.setRunningPort port)

/-- **The next step of an operation.** -/
def advance (t : Table) : Progress → Progress × Table
  | .begun op => t.start op
  | .permitted s now =>
    match t.enter s now with
    | .ok (id, t) => (.finished (some id), t)
    | .error _ => (.refused s, t)
  | .refused s => (.finished none, (t.giveBack s.address).letGo s)
  | .leaving [] _ => (.finished none, t)
  | .leaving (s :: rest) status => (.leaving rest status, (t.tearDown s status).2)
  | .finished entered => (.finished entered, t)

/-! ## Steps that nothing comes between -/

/-- The number and the table that an operation comes to which goes on from here alone to its end. -/
inductive Undisturbed : Progress → Table → Option SensorId → Table → Prop
  | finished (entered : Option SensorId) (t : Table) :
      Undisturbed (.finished entered) t entered t
  | step {p : Progress} {t t' : Table} {entered : Option SensorId} :
      Undisturbed (t.advance p).1 (t.advance p).2 entered t' → Undisturbed p t entered t'

/-- Those who were taken out give their permits back one by one, as a teardown of all does. -/
theorem undisturbed_leaving (t : Table) (gone : List Session) (status : LinkStatus) :
    Undisturbed (.leaving gone status) t none (t.tearDownAll status gone).2 := by
  induction gone generalizing t with
  | nil => exact .step (.finished none t)
  | cons s rest ih => exact .step (ih (t.tearDown s status).2)

/-- A removal takes out first and tears down then. -/
theorem undisturbed_removeWhere {t : Table} {op : Operation} {p : Session → Bool}
    (hstart : t.start op = t.unlinkFirst p) :
    Undisturbed (.begun op) t none (t.removeWhere p).2 := by
  refine .step ?_
  show Undisturbed (t.start op).1 (t.start op).2 none _
  rw [hstart]
  unfold unlinkFirst
  rcases removeWhere_cases t p with ⟨hnone, heq⟩ | ⟨s, r, htake, heq⟩
  · rw [hnone, heq]
    exact .finished none t
  · rw [htake, heq]
    exact undisturbed_leaving _ _ _

/-- An insert goes from its permit to its session, or gives the permit back. -/
theorem undisturbed_insert (t : Table) (s : Session) (now : Moment) :
    Undisturbed (.begun (.insert s now)) t (t.insert s now).1.toOption (t.insert s now).2 := by
  refine .step ?_
  rcases insert_cases t s now with ⟨hl, heq⟩ | ⟨l, existing, hl, hport, heq⟩ | ⟨l, hl, hport, heq⟩
  · simp only [heq, advance, start, permit?, hl]
    exact .finished none _
  · simp only [heq, advance, start, permit?, hl]
    refine .step ?_
    simp only [advance, enter, hport]
    exact .step (.finished none _)
  · simp only [heq, advance, start, permit?, hl]
    refine .step ?_
    simp only [advance, enter, hport]
    exact .finished _ _

/-- The number that an operation gives to a session. -/
def numberGiven (t : Table) : Operation → Option SensorId
  | .insert s now => (t.insert s now).1.toOption
  | _ => none

/-- **An operation whose steps nothing comes between is the operation of the table.** -/
theorem undisturbed_apply (t : Table) (op : Operation) :
    Undisturbed (.begun op) t (t.numberGiven op) (t.apply op) := by
  rcases op with ⟨s, now⟩ | id | ticket | ⟨id, reading, now⟩ | ⟨steady, timeout⟩ | _ | port
  · exact undisturbed_insert t s now
  · exact undisturbed_removeWhere rfl
  · exact undisturbed_removeWhere rfl
  · exact .step (.finished none _)
  · exact .step (undisturbed_leaving _ _ _)
  · exact .step (undisturbed_leaving _ _ _)
  · exact .step (.finished none _)

/-! ## Who holds a permit -/

namespace Progress

/-- The session of an insert that holds a permit and has neither entered it nor given it back. -/
def inserting : Progress → List Session
  | permitted s _ => [s]
  | refused s => [s]
  | _ => []

/-- The sessions that were taken out and have yet to give their permits back. -/
def unlinked : Progress → List Session
  | leaving gone _ => gone
  | _ => []

/-- An insert that is over holds no permit, -/
theorem inserting_of_isOver {p : Progress} (h : p.isOver = true) : p.inserting = [] := by
  rcases p with op | ⟨s, now⟩ | s | ⟨gone, status⟩ | entered
  · rfl
  · cases h
  · cases h
  · rfl
  · rfl

/-- and a departure that is over owes none. -/
theorem unlinked_of_isOver {p : Progress} (h : p.isOver = true) : p.unlinked = [] := by
  rcases p with op | ⟨s, now⟩ | s | ⟨gone, status⟩ | entered
  · rfl
  · rfl
  · rfl
  · cases h
  · rfl

/-- The session whose permit the next step gives back. -/
def gives : Progress → Option Session
  | refused s => some s
  | leaving (s :: _) _ => some s
  | _ => none

/-- Whoever gives a permit back holds it. -/
theorem mem_of_gives {p : Progress} {s : Session} (h : p.gives = some s) :
    s ∈ p.inserting ++ p.unlinked := by
  unfold gives at h
  split at h
  · cases h
    simp [inserting]
  · cases h
    simp [inserting, unlinked]
  · cases h

end Progress

/-- The session that the next step of an operation gets a permit for. -/
def grants (t : Table) : Progress → Option Session
  | .begun (.insert s _) => (t.permit? s.address).map fun _ => s
  | _ => none

/-! ## What a step does -/

/-- How often a session occurs in a list, as it came. -/
def occurrences (x : Session) (sessions : List Session) : Nat :=
  (sessions.map Session.origin).count x

@[simp] theorem occurrences_append (x : Session) (sessions more : List Session) :
    occurrences x (sessions ++ more) = occurrences x sessions + occurrences x more := by
  simp only [occurrences, List.map_append, List.count_append]

theorem occurrences_cons (x s : Session) (sessions : List Session) :
    occurrences x (s :: sessions) = occurrences x [s] + occurrences x sessions :=
  occurrences_append x [s] sessions

theorem occurrences_of_takesOut {r r' : Roster} {gone : List Session} (h : r.TakesOut gone r')
    (x : Session) : occurrences x r.sessions = occurrences x gone + occurrences x r'.sessions := by
  rw [← occurrences_append]
  exact (h.perm.map Session.origin).count_eq x

/-- What a removal takes out of the roster it holds in its hands. -/
theorem unlinkFirst_conserves (t : Table) (p : Session → Bool) (x : Session) :
    occurrences x t.sessions
      = occurrences x (t.unlinkFirst p).2.sessions + occurrences x (t.unlinkFirst p).1.inserting
        + occurrences x (t.unlinkFirst p).1.unlinked := by
  unfold unlinkFirst
  cases htake : t.roster.take? p with
  | none => rfl
  | some taken =>
    have h := occurrences_of_takesOut (Roster.takesOut_take? htake) x
    show occurrences x t.roster.sessions
      = occurrences x taken.2.sessions + 0 + occurrences x [taken.1]
    omega

/-- Noting a reading leaves every session the one that came. -/
theorem occurrences_updateReading (t : Table) (id : SensorId) (reading : Reading) (now : Moment)
    (x : Session) :
    occurrences x (t.updateReading id reading now).2.sessions = occurrences x t.sessions := by
  rcases updateReading_cases t id reading now with heq | heq
  · rw [heq]
  · rw [heq]
    show ((Roster.adjustFirst _ _ t.sessions).map Session.origin).count x = _
    rw [Roster.map_adjustFirst _ _ _ fun s => s.origin_hear reading now]
    rfl

/-- The first step of an operation: what holds a permit before, or gets one, holds it afterwards. -/
theorem start_conserves (t : Table) (op : Operation) (x : Session) :
    occurrences x (t.grants (.begun op)).toList + occurrences x t.sessions
      = occurrences x (t.start op).2.sessions + occurrences x (t.start op).1.inserting
        + occurrences x (t.start op).1.unlinked := by
  -- those that are taken out go from the list into the hands of the operation
  cases op with
  | insert s now =>
    rcases hl : t.ledger.allow? s.address with _ | l
    · simp only [grants, start, permit?, hl]
      show 0 + occurrences x t.sessions = occurrences x t.sessions + 0 + 0
      omega
    · simp only [grants, start, permit?, hl]
      show occurrences x [s] + occurrences x t.sessions
        = occurrences x t.sessions + occurrences x [s] + 0
      omega
  | remove id =>
    have h := unlinkFirst_conserves t (·.sensor = id) x
    show 0 + occurrences x t.sessions = _
    rw [h, Nat.zero_add]
    rfl
  | removeLink ticket =>
    have h := unlinkFirst_conserves t (·.link = some ticket) x
    show 0 + occurrences x t.sessions = _
    rw [h, Nat.zero_add]
    rfl
  | updateReading id reading now =>
    have h := occurrences_updateReading t id reading now x
    show 0 + occurrences x t.sessions
      = occurrences x (t.updateReading id reading now).2.sessions + 0 + 0
    omega
  | reapIdle steady timeout =>
    have h := occurrences_of_takesOut (Roster.takesOut_takeExpired t.roster steady timeout) x
    show 0 + occurrences x t.roster.sessions
      = occurrences x (t.roster.takeExpired steady timeout).2.sessions + 0
        + occurrences x (t.roster.takeExpired steady timeout).1
    omega
  | clear =>
    have h := occurrences_of_takesOut (Roster.takesOut_takeAll t.roster) x
    show 0 + occurrences x t.roster.sessions
      = occurrences x t.roster.takeAll.2.sessions + 0 + occurrences x t.roster.takeAll.1
    omega
  | setRunningPort port =>
    show 0 + occurrences x t.sessions = occurrences x t.sessions + 0 + 0
    omega

/-- **No step loses a session that holds a permit, and none makes one up.** Those that held a permit
before, and the one that gets a permit, are those that hold one afterwards and the one whose permit
goes back. -/
theorem advance_conserves (t : Table) (p : Progress) (x : Session) :
    occurrences x (t.grants p).toList + occurrences x t.sessions
        + occurrences x p.inserting + occurrences x p.unlinked
      = occurrences x (t.advance p).2.sessions + occurrences x (t.advance p).1.inserting
        + occurrences x (t.advance p).1.unlinked + occurrences x p.gives.toList := by
  -- one equation for each stage, in which a session only moves from one term to another
  cases p with
  | begun op =>
    have h := start_conserves t op x
    show _ + 0 + 0 = occurrences x (t.start op).2.sessions + occurrences x (t.start op).1.inserting
      + occurrences x (t.start op).1.unlinked + 0
    omega
  | permitted s now =>
    cases hport : t.roster.connectedOnPort? s.port with
    | some existing =>
      simp only [advance, enter, hport]
      show 0 + occurrences x t.sessions + occurrences x [s] + 0
        = occurrences x t.sessions + occurrences x [s] + 0 + 0
      omega
    | none =>
      simp only [advance, enter, hport]
      have h := occurrences_cons x (t.roster.numbered t.policy s now) t.sessions
      show 0 + occurrences x t.sessions + occurrences x [s] + 0
        = occurrences x (t.roster.numbered t.policy s now :: t.sessions) + 0 + 0 + 0
      rw [h]
      show _ = occurrences x [s] + _ + 0 + 0 + 0
      omega
  | refused s =>
    show 0 + occurrences x t.sessions + occurrences x [s] + 0
      = occurrences x t.sessions + 0 + 0 + occurrences x [s]
    omega
  | leaving gone status =>
    cases gone with
    | nil =>
      show 0 + occurrences x t.sessions + 0 + 0 = occurrences x t.sessions + 0 + 0 + 0
      omega
    | cons s rest =>
      have h := occurrences_cons x s rest
      show 0 + occurrences x t.sessions + 0 + occurrences x (s :: rest)
        = occurrences x t.sessions + 0 + occurrences x rest + occurrences x [s]
      omega
  | finished entered =>
    show 0 + occurrences x t.sessions + 0 + 0 = occurrences x t.sessions + 0 + 0 + 0
    omega

/-! ## What a step does to the counts -/

/-- Taking a session out is no matter of the ledger, -/
theorem ledger_unlinkFirst (t : Table) (p : Session → Bool) :
    (t.unlinkFirst p).2.ledger = t.ledger := by
  unfold unlinkFirst
  cases t.roster.take? p <;> rfl

/-- and neither is a reading. -/
theorem ledger_updateReading (t : Table) (id : SensorId) (reading : Reading) (now : Moment) :
    (t.updateReading id reading now).2.ledger = t.ledger := by
  rcases updateReading_cases t id reading now with heq | heq
  · rw [heq]
  · rw [heq]

/-- **What a step does to the ledger:** it takes the permit that the step grants, or gives back the
permit that the step gives back, or leaves the ledger alone. -/
theorem ledger_advance (t : Table) (p : Progress) :
    (∃ s l, t.grants p = some s ∧ p.gives = none ∧ t.ledger.allow? s.address = some l
      ∧ (t.advance p).2.ledger = l)
    ∨ (∃ s, t.grants p = none ∧ p.gives = some s
      ∧ (t.advance p).2.ledger = t.ledger.release s.address)
    ∨ (t.grants p = none ∧ p.gives = none ∧ (t.advance p).2.ledger = t.ledger) := by
  -- only the first step of an insert asks for a permit, and only two stages give one back
  cases p with
  | begun op =>
    cases op with
    | insert s now =>
      cases hl : t.ledger.allow? s.address with
      | none =>
        refine .inr (.inr ⟨?_, rfl, ?_⟩)
        · simp only [grants, permit?, hl, Option.map_none]
        · simp only [advance, start, permit?, hl]
          rfl
      | some l =>
        refine .inl ⟨s, l, ?_, rfl, hl, ?_⟩
        · simp only [grants, permit?, hl, Option.map_some]
        · simp only [advance, start, permit?, hl]
    | remove id => exact .inr (.inr ⟨rfl, rfl, ledger_unlinkFirst t _⟩)
    | removeLink ticket => exact .inr (.inr ⟨rfl, rfl, ledger_unlinkFirst t _⟩)
    | updateReading id reading now =>
      exact .inr (.inr ⟨rfl, rfl, ledger_updateReading t id reading now⟩)
    | reapIdle steady timeout => exact .inr (.inr ⟨rfl, rfl, rfl⟩)
    | clear => exact .inr (.inr ⟨rfl, rfl, rfl⟩)
    | setRunningPort port => exact .inr (.inr ⟨rfl, rfl, rfl⟩)
  | permitted s now =>
    refine .inr (.inr ⟨rfl, rfl, ?_⟩)
    cases hport : t.roster.connectedOnPort? s.port with
    | some existing => simp only [advance, enter, hport]
    | none => simp only [advance, enter, hport]
  | refused s => exact .inr (.inl ⟨s, rfl, rfl, rfl⟩)
  | leaving gone status =>
    cases gone with
    | nil => exact .inr (.inr ⟨rfl, rfl, rfl⟩)
    | cons s rest => exact .inr (.inl ⟨s, rfl, rfl, rfl⟩)
  | finished entered => exact .inr (.inr ⟨rfl, rfl, rfl⟩)

/-- The count of sessions changes under the lock of the list, and with it. -/
theorem counted_start {t : Table} (h : t.activeCount = t.sessions.length) (op : Operation) :
    (t.start op).2.activeCount = (t.start op).2.sessions.length := by
  have hunlink : ∀ p, (t.unlinkFirst p).2.activeCount = (t.unlinkFirst p).2.sessions.length := by
    intro p
    unfold unlinkFirst
    rcases htake : t.roster.take? p with _ | ⟨s, r⟩
    · exact h
    · exact (Roster.takesOut_take? htake).counted h
  rcases op with ⟨s, now⟩ | id | ticket | ⟨id, reading, now⟩ | ⟨steady, timeout⟩ | _ | port
  · rcases hl : t.ledger.allow? s.address with _ | l
    · simp only [start, permit?, hl]
      exact h
    · simp only [start, permit?, hl]
      exact h
  · exact hunlink _
  · exact hunlink _
  · rcases updateReading_cases t id reading now with heq | heq
    · simp only [start, heq]
      exact h
    · simp only [start, heq]
      exact h.trans (Roster.length_adjustFirst _ _ _).symm
  · exact (Roster.takesOut_takeExpired t.roster steady timeout).counted h
  · exact (Roster.takesOut_takeAll t.roster).counted h
  · exact h

/-- **No step puts the count of sessions wrong,** since those that change the list change the count,
too. -/
theorem counted_advance {t : Table} (h : t.activeCount = t.sessions.length) (p : Progress) :
    (t.advance p).2.activeCount = (t.advance p).2.sessions.length := by
  rcases p with op | ⟨s, now⟩ | s | ⟨_ | ⟨s, rest⟩, status⟩ | entered
  · exact counted_start h op
  · rcases hport : t.roster.connectedOnPort? s.port with _ | existing
    · simp only [advance, enter, hport]
      exact congrArg (· + 1) h
    · simp only [advance, enter, hport]
      exact h
  · exact h
  · exact h
  · exact h
  · exact h

end SensorGateway.Table
