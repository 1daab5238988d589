import SensorGateway.Proofs.Session.Departures

/-!
How many sessions come and go.

Along a run of the table each operation admits so many sessions and takes out so many. Whatever the
operations are, the sessions that are there are those that were admitted, less those that have left.
-/

set_option autoImplicit false

namespace SensorGateway.Table

/-- How many sessions an operation admits: one, if it is an insert that is not turned away. -/
def admits (t : Table) : Operation → Nat
  | .insert s now =>
    match (t.insert s now).1 with
    | .ok _ => 1
    | .error _ => 0
  | _ => 0

/-- How many sessions an operation takes out for their idleness. -/
def evicts (t : Table) : Operation → Nat
  | .reapIdle steady timeout => (t.reached (.reapIdle steady timeout)).length
  | _ => 0

/-- The sum of a count along a run. -/
def sumAlong (count : Table → Operation → Nat) : Table → List Operation → Nat
  | _, [] => 0
  | t, op :: operations => count t op + sumAlong count (t.apply op) operations

/-- **How many inserts of a run were successful.** -/
def admissions : Table → List Operation → Nat := sumAlong admits

/-- **How many sessions a run has reaped.** -/
def evictions : Table → List Operation → Nat := sumAlong evicts

/-- **How many sessions have left in a run,** in whatever way. -/
def departures : Table → List Operation → Nat := sumAlong fun t op => (t.reached op).length

variable {t : Table}

/-- Counts along a run add up over its parts. -/
theorem sumAlong_append (count : Table → Operation → Nat) (t : Table)
    (operations more : List Operation) :
    sumAlong count t (operations ++ more)
      = sumAlong count t operations + sumAlong count (t.run operations) more := by
  induction operations generalizing t with
  | nil => exact (Nat.zero_add _).symm
  | cons op operations ih =>
    have hrest := ih (t.apply op)
    show count t op + sumAlong count (t.apply op) (operations ++ more) = _
    rw [hrest, ← Nat.add_assoc]
    rfl

theorem run_append (t : Table) (operations more : List Operation) :
    t.run (operations ++ more) = (t.run operations).run more := List.foldl_append

/-! ## Leaving -/

theorem length_tearDownAll (t : Table) (status : LinkStatus) (gone : List Session) :
    (t.tearDownAll status gone).1.length = gone.length := by
  induction gone generalizing t with
  | nil => rfl
  | cons s rest ih => exact congrArg (· + 1) (ih (t.tearDown s status).2)

/-- As many sessions are answered as a sweep reaches. -/
theorem length_reapIdle (t : Table) (steady timeout : Nat) :
    (t.reapIdle steady timeout).1.length = t.evicts (.reapIdle steady timeout) := by
  have hlen := length_tearDownAll { t with roster := (t.roster.takeExpired steady timeout).2 }
    .timedOut (t.roster.takeExpired steady timeout).1
  have hgone := congrArg List.length (t.roster.takeExpired_fst steady timeout)
  exact hlen.trans hgone

/-- The count of the roster goes down by that number. -/
theorem activeCount_reapIdle (t : Table) (steady timeout : Nat) :
    (t.reapIdle steady timeout).2.activeCount
      = t.activeCount - (t.reapIdle steady timeout).1.length := by
  have hgone := length_tearDownAll { t with roster := (t.roster.takeExpired steady timeout).2 }
    .timedOut (t.roster.takeExpired steady timeout).1
  have hcount : (t.roster.takeExpired steady timeout).2.activeCount
      = t.roster.activeCount - (t.roster.takeExpired steady timeout).1.length := by
    rw [Roster.takeExpired_eq]
  unfold reapIdle activeCount
  rw [roster_tearDownAll, hgone]
  exact hcount

/-- Sessions that are taken out are no longer there. -/
theorem length_leave {gone : List Session} {r : Roster} (h : t.roster.TakesOut gone r)
    (status : LinkStatus) :
    ({ t with roster := r }.tearDownAll status gone).2.sessions.length + gone.length
      = t.sessions.length := by
  have hlen := h.perm.length_eq
  rw [List.length_append] at hlen
  rw [sessions, roster_tearDownAll, Nat.add_comm]
  exact hlen.symm

/-- A removal takes out the session that is found, or nobody. -/
theorem length_removeWhere (t : Table) (p : Session → Bool) :
    (t.removeWhere p).2.sessions.length + (t.sessions.find? p).toList.length
      = t.sessions.length := by
  have hfind := t.roster.find?_eq_of_take? p
  rcases removeWhere_cases t p with ⟨hnone, heq⟩ | ⟨s, r, htake, heq⟩
  · rw [hnone] at hfind
    rw [heq, sessions, hfind]
    rfl
  · rw [htake] at hfind
    have hone : (t.sessions.find? p).toList.length = 1 := by
      rw [sessions, hfind]
      rfl
    rw [heq, hone]
    exact length_leave (Roster.takesOut_take? htake) .disconnected

/-! ## The balance -/

/-- What an operation admits is there after it, and what it reaches is not. -/
theorem length_sessions_apply (t : Table) (op : Operation) :
    (t.apply op).sessions.length + (t.reached op).length = t.sessions.length + t.admits op := by
  cases op with
  | insert s now =>
    rcases insert_cases t s now with ⟨-, heq⟩ | ⟨l, existing, -, -, heq⟩ | ⟨l, -, -, heq⟩
    · simp only [apply, admits, heq]
      rfl
    · simp only [apply, admits, heq]
      rfl
    · simp only [apply, admits, heq]
      rfl
  | remove id => exact length_removeWhere t _
  | removeLink ticket => exact length_removeWhere t _
  | updateReading id reading now =>
    rcases updateReading_cases t id reading now with heq | heq
    · simp only [apply, heq]
      rfl
    · simp only [apply, heq]
      exact Roster.length_adjustFirst _ _ _
  | reapIdle steady timeout =>
    have hleave := length_leave (Roster.takesOut_takeExpired t.roster steady timeout) .timedOut
    have hgone := congrArg List.length (t.roster.takeExpired_fst steady timeout)
    exact (congrArg (_ + ·) hgone.symm).trans hleave
  | clear => exact length_leave (Roster.takesOut_takeAll t.roster) .disconnected
  | setRunningPort port => rfl

/-- **Whoever was admitted is there or has left.** -/
theorem length_sessions_run (t : Table) (operations : List Operation) :
    (t.run operations).sessions.length + t.departures operations
      = t.sessions.length + t.admissions operations := by
  induction operations generalizing t with
  | nil => rfl
  | cons op operations ih =>
    -- the balance of the first operation and that of the rest add up
    have hfirst := length_sessions_apply t op
    have hrest := ih (t.apply op)
    have hdepartures : t.departures (op :: operations)
        = (t.reached op).length + (t.apply op).departures operations := rfl
    have hadmissions : t.admissions (op :: operations)
        = t.admits op + (t.apply op).admissions operations := rfl
    rw [hdepartures, hadmissions]
    show ((t.apply op).run operations).sessions.length + _ = _
    omega

end SensorGateway.Table
