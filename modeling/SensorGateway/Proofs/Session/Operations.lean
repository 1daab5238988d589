import SensorGateway.Proofs.Admission.Count
import SensorGateway.Proofs.Session.Roster
import SensorGateway.Session.Table

/-!
The operations of the session table as data, and what each of them keeps.

A run of the table is a list of operations. Whatever they are, a table whose books balance keeps
balanced books: the count of sessions is right, every address holds as many permits as it has
registered sessions, and none holds more than the ceiling. An insert changes the books in one of
three ways, which `insert_cases` lists; every way of leaving is one taking out of the roster
followed by one teardown for each session that was taken out, so a single lemma serves them all.
-/

set_option autoImplicit false

namespace SensorGateway.Table

/-! ## Operations and runs -/

/-- An operation that may change the table. -/
inductive Operation where
  | insert (s : Session) (now : Moment)
  | remove (id : SensorId)
  | removeLink (ticket : Ticket)
  | updateReading (id : SensorId) (reading : Reading) (now : Moment)
  | reapIdle (steady timeout : Nat)
  | clear
  | setRunningPort (port : UInt16)
deriving DecidableEq, Repr

/-- A table before its first session. -/
def fresh (policy : IdPolicy) (ceiling capacity : Nat) : Table :=
  { policy := policy, ledger := { ceiling := ceiling, capacity := capacity } }

/-- The table after an operation. -/
def apply (t : Table) : Operation → Table
  | .insert s now => (t.insert s now).2
  | .remove id => (t.remove id).2
  | .removeLink ticket => (t.removeLink ticket).2
  | .updateReading id reading now => (t.updateReading id reading now).2
  | .reapIdle steady timeout => (t.reapIdle steady timeout).2
  | .clear => t.clear.2
  | .setRunningPort port => t.setRunningPort port

/-- **The table after a list of operations,** the first one first. -/
def run (t : Table) (operations : List Operation) : Table := operations.foldl apply t

@[simp] theorem run_nil (t : Table) : t.run [] = t := rfl

theorem run_concat (t : Table) (operations : List Operation) (op : Operation) :
    t.run (operations ++ [op]) = (t.run operations).apply op := by
  simp only [run, List.foldl_append, List.foldl_cons, List.foldl_nil]

/-- How many of some sessions come from an address. -/
def headcount (address : String) (sessions : List Session) : Nat :=
  sessions.countP fun s => s.address = address

@[simp] theorem headcount_nil (address : String) : headcount address [] = 0 := rfl

@[simp] theorem headcount_append (address : String) (sessions more : List Session) :
    headcount address (sessions ++ more) = headcount address sessions + headcount address more := by
  simp only [headcount, List.countP_append]

/-- A session counts for its own address. -/
theorem headcount_cons (address : String) (s : Session) (sessions : List Session) :
    headcount address (s :: sessions)
      = headcount address sessions + if address = s.address then 1 else 0 := by
  unfold headcount
  rw [List.countP_cons]
  by_cases h : address = s.address
  · simp [h]
  · have h' : ¬ s.address = address := fun hs => h hs.symm
    simp [h, h']

/-- How many registered sessions come from an address. -/
def registered (t : Table) (address : String) : Nat := headcount address t.sessions

/-- **The books of a table balance.** -/
structure Balanced (t : Table) : Prop where
  counted : t.activeCount = t.sessions.length
  permits : ∀ address, t.ledger.count address = t.registered address
  withinCeiling : ∀ address, t.ledger.count address ≤ t.ledger.ceiling

theorem balanced_fresh (policy : IdPolicy) (ceiling capacity : Nat) :
    (fresh policy ceiling capacity).Balanced :=
  ⟨rfl, fun _ => rfl, fun _ => Nat.zero_le _⟩

/-! ## Entering -/

section Insert

variable {t : Table} {s : Session} {l : Admission.Ledger}

theorem insert_of_denied (hl : t.ledger.allow? s.address = none) (now : Moment) :
    t.insert s now = (.error (.admissionDenied s.address), t.letGo s) := by
  simp only [insert, permit?, hl]

/-- A session with a permit whose port is taken is turned away, and the permit goes back. -/
theorem insert_of_taken {existing : SensorId} (hl : t.ledger.allow? s.address = some l)
    (hp : t.roster.connectedOnPort? s.port = some existing) (now : Moment) :
    t.insert s now = (.error (.duplicatePort s.port existing),
      { t with ledger := l.release s.address }.letGo s) := by
  simp only [insert, permit?, enter, hl, hp]
  rfl

/-- A session with a permit whose port is free is entered at the front. -/
theorem insert_of_free (hl : t.ledger.allow? s.address = some l)
    (hp : t.roster.connectedOnPort? s.port = none) (now : Moment) :
    t.insert s now = (.ok (t.roster.assignedId t.policy),
      { t with ledger := l, roster := t.roster.push t.policy s now }) := by
  simp only [insert, permit?, enter, hl, hp]

end Insert

/-- **How an insert can end:** no permit, a permit that goes back because the port is taken, or a
session at the front. -/
theorem insert_cases (t : Table) (s : Session) (now : Moment) :
    (t.ledger.allow? s.address = none
      ∧ t.insert s now = (.error (.admissionDenied s.address), t.letGo s))
    ∨ (∃ l existing, t.ledger.allow? s.address = some l
      ∧ t.roster.connectedOnPort? s.port = some existing
      ∧ t.insert s now = (.error (.duplicatePort s.port existing),
          { t with ledger := l.release s.address }.letGo s))
    ∨ (∃ l, t.ledger.allow? s.address = some l
      ∧ t.roster.connectedOnPort? s.port = none
      ∧ t.insert s now = (.ok (t.roster.assignedId t.policy),
          { t with ledger := l, roster := t.roster.push t.policy s now })) := by
  rcases hl : t.ledger.allow? s.address with _ | l
  · exact .inl ⟨rfl, insert_of_denied hl now⟩
  · rcases hp : t.roster.connectedOnPort? s.port with _ | existing
    · exact .inr (.inr ⟨l, rfl, rfl, insert_of_free hl hp now⟩)
    · exact .inr (.inl ⟨l, existing, rfl, rfl, insert_of_taken hl hp now⟩)

/-- A permit that goes back at once leaves every count as it was. -/
theorem count_release_of_allow? {l l' : Admission.Ledger} {address : String}
    (h : l.allow? address = some l') (other : String) :
    (l'.release address).count other = l.count other := by
  rw [Admission.Ledger.count_release, Admission.Ledger.count_of_allow? h]
  by_cases hother : other = address
  · rw [if_pos hother, if_pos hother, Nat.add_sub_cancel]
  · rw [if_neg hother, if_neg hother]

/-- **A session that is turned away leaves no trace** but in the order of the ledger's entries and
in the tickets that were let go. -/
theorem insert_refused {t : Table} {s : Session} {now : Moment} {e : InsertError}
    (h : (t.insert s now).1 = .error e) :
    (t.insert s now).2.roster = t.roster
      ∧ ∀ address, (t.insert s now).2.ledger.count address = t.ledger.count address := by
  rcases insert_cases t s now with ⟨-, heq⟩ | ⟨l, existing, hl, -, heq⟩ | ⟨l, -, -, heq⟩
  · rw [heq]
    exact ⟨rfl, fun _ => rfl⟩
  · rw [heq]
    exact ⟨rfl, fun address => count_release_of_allow? hl address⟩
  · rw [heq] at h
    cases h

/-- **An insert keeps the books,** however it ends. -/
theorem Balanced.insert {t : Table} (hb : t.Balanced) (s : Session) (now : Moment) :
    (t.insert s now).2.Balanced := by
  rcases insert_cases t s now with ⟨-, heq⟩ | ⟨l, existing, hl, -, heq⟩ | ⟨l, hl, -, heq⟩
  · rw [heq]
    exact ⟨hb.counted, hb.permits, hb.withinCeiling⟩
  · rw [heq]
    refine ⟨hb.counted, fun address => ?_, fun address => ?_⟩
    · exact (count_release_of_allow? hl address).trans (hb.permits address)
    · show (l.release s.address).count address ≤ (l.release s.address).ceiling
      rw [count_release_of_allow? hl, Admission.Ledger.ceiling_release,
        Admission.Ledger.ceiling_of_allow? hl]
      exact hb.withinCeiling address
  · rw [heq]
    refine ⟨?_, fun address => ?_, fun address => ?_⟩
    · show t.roster.activeCount + 1 = (t.roster.push t.policy s now).sessions.length
      rw [Roster.sessions_push, List.length_cons]
      exact congrArg (· + 1) hb.counted
    · show l.count address = headcount address (t.roster.push t.policy s now).sessions
      rw [Admission.Ledger.count_of_allow? hl, hb.permits, Roster.sessions_push, headcount_cons]
      show (if address = s.address then _ else _)
        = t.registered address + if address = s.address then 1 else 0
      by_cases h : address = s.address
      · rw [if_pos h, if_pos h]
      · rw [if_neg h, if_neg h, Nat.add_zero]
    · show l.count address ≤ l.ceiling
      rw [Admission.Ledger.count_of_allow? hl, Admission.Ledger.ceiling_of_allow? hl]
      by_cases h : address = s.address
      · rw [if_pos h, h]
        exact Admission.Ledger.count_lt_ceiling_of_allow? hl
      · rw [if_neg h]
        exact hb.withinCeiling address

/-! ## Leaving -/

@[simp] theorem roster_tearDownAll (t : Table) (status : LinkStatus) (gone : List Session) :
    (t.tearDownAll status gone).2.roster = t.roster := by
  induction gone generalizing t with
  | nil => rfl
  | cons s rest ih => exact ih (t.tearDown s status).2

@[simp] theorem ceiling_tearDownAll (t : Table) (status : LinkStatus) (gone : List Session) :
    (t.tearDownAll status gone).2.ledger.ceiling = t.ledger.ceiling := by
  induction gone generalizing t with
  | nil => rfl
  | cons s rest ih => exact ih (t.tearDown s status).2

/-- **Teardown gives back one permit for each session.** -/
theorem count_tearDownAll (t : Table) (status : LinkStatus) (gone : List Session)
    (address : String) :
    (t.tearDownAll status gone).2.ledger.count address
      = t.ledger.count address - headcount address gone := by
  induction gone generalizing t with
  | nil => rfl
  | cons s rest ih =>
    have hstep := ih (t.tearDown s status).2
    have hcount : (t.tearDown s status).2.ledger.count address
        = if address = s.address then t.ledger.count address - 1 else t.ledger.count address :=
      Admission.Ledger.count_release t.ledger s.address address
    rw [hcount] at hstep
    -- the ledger takes the permits one by one, and natural subtraction stops at zero on both sides
    refine hstep.trans ?_
    rw [headcount_cons]
    by_cases h : address = s.address
    · rw [if_pos h, if_pos h]
      omega
    · rw [if_neg h, if_neg h, Nat.add_zero]

/-- The registered sessions of an address, split into those that go and those that stay. -/
theorem registered_of_takesOut {t : Table} {gone : List Session} {r : Roster}
    (h : t.roster.TakesOut gone r) (address : String) :
    t.registered address
      = headcount address gone + { t with roster := r }.registered address := by
  refine (h.perm.countP_eq _).trans ?_
  exact headcount_append address gone r.sessions

/-- **Every way of leaving keeps the books:** sessions are taken out, and each is torn down once. -/
theorem Balanced.leave {t : Table} (hb : t.Balanced) {gone : List Session} {r : Roster}
    (h : t.roster.TakesOut gone r) (status : LinkStatus) :
    ({ t with roster := r }.tearDownAll status gone).2.Balanced := by
  -- the permits that are left are those of the sessions that stay
  have hcount : ∀ address, ({ t with roster := r }.tearDownAll status gone).2.ledger.count address
      = { t with roster := r }.registered address := by
    intro address
    rw [count_tearDownAll]
    show t.ledger.count address - _ = _
    rw [hb.permits, registered_of_takesOut h, Nat.add_sub_cancel_left]
  refine ⟨?_, fun address => ?_, fun address => ?_⟩
  · unfold activeCount sessions
    rw [roster_tearDownAll]
    exact h.counted hb.counted
  · rw [hcount]
    unfold registered sessions
    rw [roster_tearDownAll]
  · have hsplit := registered_of_takesOut h address
    -- whoever stays was counted before, so what is left is no more than what there was
    have hbound := hb.withinCeiling address
    rw [hb.permits] at hbound
    rw [hcount, ceiling_tearDownAll]
    show _ ≤ t.ledger.ceiling
    omega

/-- Removing one session is leaving in the company of nobody. -/
theorem removeWhere_cases (t : Table) (p : Session → Bool) :
    (t.roster.take? p = none ∧ t.removeWhere p = (none, t))
    ∨ ∃ s r, t.roster.take? p = some (s, r)
      ∧ t.removeWhere p = (some (s.ended .disconnected),
          ({ t with roster := r }.tearDownAll .disconnected [s]).2) := by
  unfold removeWhere
  cases h : t.roster.take? p with
  | none => exact .inl ⟨rfl, rfl⟩
  | some taken => exact .inr ⟨taken.1, taken.2, rfl, rfl⟩

theorem ceiling_removeWhere (t : Table) (p : Session → Bool) :
    (t.removeWhere p).2.ledger.ceiling = t.ledger.ceiling := by
  rcases removeWhere_cases t p with ⟨-, heq⟩ | ⟨s, r, -, heq⟩
  · rw [heq]
  · rw [heq]
    exact ceiling_tearDownAll _ _ _

theorem Balanced.removeWhere {t : Table} (hb : t.Balanced) (p : Session → Bool) :
    (t.removeWhere p).2.Balanced := by
  rcases removeWhere_cases t p with ⟨-, heq⟩ | ⟨s, r, htake, heq⟩
  · rw [heq]
    exact hb
  · rw [heq]
    exact hb.leave (Roster.takesOut_take? htake) .disconnected

theorem Balanced.reapIdle {t : Table} (hb : t.Balanced) (steady timeout : Nat) :
    (t.reapIdle steady timeout).2.Balanced :=
  hb.leave (Roster.takesOut_takeExpired t.roster steady timeout) .timedOut

theorem Balanced.clear {t : Table} (hb : t.Balanced) : t.clear.2.Balanced :=
  hb.leave (Roster.takesOut_takeAll t.roster) .disconnected

/-- Whoever is left stands in the old order. -/
theorem sublist_leave {t : Table} {gone : List Session} {r : Roster}
    (h : t.roster.TakesOut gone r) (status : LinkStatus) :
    ({ t with roster := r }.tearDownAll status gone).2.sessions.Sublist t.sessions := by
  unfold sessions
  rw [roster_tearDownAll]
  exact h.kept

theorem sublist_removeWhere (t : Table) (p : Session → Bool) :
    (t.removeWhere p).2.sessions.Sublist t.sessions := by
  rcases removeWhere_cases t p with ⟨-, heq⟩ | ⟨s, r, htake, heq⟩
  · simpa only [heq] using List.Sublist.refl t.sessions
  · rw [heq]
    exact sublist_leave (Roster.takesOut_take? htake) .disconnected

/-! ## Noting a reading -/

/-- Noting a reading changes the list of sessions alone, one session of it, and of that session what
activity changes. -/
theorem updateReading_cases (t : Table) (id : SensorId) (reading : Reading) (now : Moment) :
    t.updateReading id reading now = (false, t)
    ∨ t.updateReading id reading now = (true, { t with roster := { t.roster with
        sessions := Roster.adjustFirst (·.sensor = id) (·.hear reading now) t.sessions } }) := by
  unfold updateReading
  cases h : t.roster.update? id reading now with
  | none => exact .inl rfl
  | some r =>
    obtain ⟨hsessions, hr⟩ := Roster.update?_spec h
    refine .inr ?_
    rw [hr, hsessions]
    rfl

/-- Noting a reading adjusts the newest session with the number, if there is one. -/
theorem sessions_updateReading (t : Table) (id : SensorId) (reading : Reading) (now : Moment) :
    (t.updateReading id reading now).2.sessions
      = Roster.adjustFirst (·.sensor = id) (·.hear reading now) t.sessions := by
  rcases hfind : t.roster.find? id with _ | s
  · have hsame : t.updateReading id reading now = (false, t) := by
      simp only [updateReading, Roster.update?, hfind]
    rw [hsame]
    -- with nobody of that number there is nothing that the adjustment would reach
    refine (Roster.adjustFirst_of_none fun x hx => ?_).symm
    have hnone := List.find?_eq_none.mp hfind x hx
    simpa using hnone
  · simp only [updateReading, Roster.update?, hfind]
    rfl

/-- A reading moves nobody, so the books stay as they are. -/
theorem Balanced.updateReading {t : Table} (hb : t.Balanced) (id : SensorId) (reading : Reading)
    (now : Moment) : (t.updateReading id reading now).2.Balanced := by
  rcases updateReading_cases t id reading now with heq | heq
  · rw [heq]
    exact hb
  · rw [heq]
    -- a reading leaves the list of addresses, so the permits are those of the same sessions
    have hmap := Roster.map_adjustFirst (fun s => decide (s.sensor = id)) (·.hear reading now)
      (·.address) (fun _ => rfl) t.sessions
    refine ⟨?_, fun address => ?_, hb.withinCeiling⟩
    · exact hb.counted.trans (Roster.length_adjustFirst _ _ _).symm
    · refine (hb.permits address).trans ?_
      have hcount := congrArg (List.countP fun a => decide (a = address)) hmap
      rw [List.countP_map, List.countP_map] at hcount
      exact hcount.symm

/-! ## Runs -/

/-- **Every operation keeps the books.** -/
theorem Balanced.apply {t : Table} (hb : t.Balanced) (op : Operation) : (t.apply op).Balanced := by
  cases op with
  | insert s now => exact hb.insert s now
  | remove id => exact hb.removeWhere _
  | removeLink ticket => exact hb.removeWhere _
  | updateReading id reading now => exact hb.updateReading id reading now
  | reapIdle steady timeout => exact hb.reapIdle steady timeout
  | clear => exact hb.clear
  | setRunningPort port => exact ⟨hb.counted, hb.permits, hb.withinCeiling⟩

/-- **So they balance after every run.** -/
theorem Balanced.run {t : Table} (hb : t.Balanced) (operations : List Operation) :
    (t.run operations).Balanced := by
  induction operations generalizing t with
  | nil => exact hb
  | cons op rest ih => exact ih (hb.apply op)

/-- **What an operation can do to the list of sessions:** sessions leave it, one that got a permit
and whose port is free is entered at its front, or one of it hears a reading. -/
theorem sessions_apply (t : Table) (op : Operation) :
    (t.apply op).sessions.Sublist t.sessions
    ∨ (∃ s now, op = .insert s now
        ∧ (t.insert s now).1 = .ok (t.roster.assignedId t.policy)
        ∧ t.roster.connectedOnPort? s.port = none
        ∧ (t.apply op).sessions = t.roster.numbered t.policy s now :: t.sessions)
    ∨ (∃ id reading now, op = .updateReading id reading now
        ∧ (t.apply op).sessions
          = Roster.adjustFirst (·.sensor = id) (·.hear reading now) t.sessions) := by
  cases op with
  | insert s now =>
    rcases insert_cases t s now with ⟨-, heq⟩ | ⟨l, existing, -, -, heq⟩ | ⟨l, -, hfree, heq⟩
    · simp only [apply, heq]
      exact .inl (List.Sublist.refl _)
    · simp only [apply, heq]
      exact .inl (List.Sublist.refl _)
    · have hok : (t.insert s now).1 = .ok (t.roster.assignedId t.policy) := congrArg Prod.fst heq
      simp only [apply, heq]
      exact .inr (.inl ⟨s, now, rfl, hok, hfree, rfl⟩)
  | remove id => exact .inl (sublist_removeWhere t _)
  | removeLink ticket => exact .inl (sublist_removeWhere t _)
  | updateReading id reading now =>
    exact .inr (.inr ⟨id, reading, now, rfl, sessions_updateReading t id reading now⟩)
  | reapIdle steady timeout =>
    exact .inl (sublist_leave (Roster.takesOut_takeExpired t.roster steady timeout) .timedOut)
  | clear => exact .inl (sublist_leave (Roster.takesOut_takeAll t.roster) .disconnected)
  | setRunningPort port => exact .inl (List.Sublist.refl _)

/-- **What holds of every session goes on to hold,** if it holds of a session that is admitted, and
if a reading that is noted keeps it. -/
theorem keeps_apply {t : Table} {op : Operation} {p : Session → Prop} (h : ∀ x ∈ t.sessions, p x)
    (hinsert : ∀ s now, op = .insert s now →
      (t.insert s now).1 = .ok (t.roster.assignedId t.policy) →
        p (t.roster.numbered t.policy s now))
    (hhear : ∀ id reading now, op = .updateReading id reading now →
      ∀ x, p x → p (x.hear reading now)) :
    ∀ x ∈ (t.apply op).sessions, p x := by
  intro x hx
  -- a session of the table afterwards was there before, has just come, or is one that hears
  rcases sessions_apply t op with
    hkept | ⟨s, now, hop, hok, -, heq⟩ | ⟨id, reading, now, hop, heq⟩
  · exact h x (hkept.subset hx)
  · rw [heq] at hx
    rcases List.mem_cons.mp hx with rfl | hold
    · exact hinsert s now hop hok
    · exact h x hold
  · rw [heq] at hx
    rcases Roster.mem_adjustFirst hx with hold | ⟨y, hy, rfl⟩
    · exact h x hold
    · exact hhear id reading now hop y (h y hy)

/-- **What holds of the origin of every session goes on to hold,** if it holds of the sessions that
are inserted: numbering a session and hearing a reading leave its origin alone. -/
theorem forall_sessions_apply {t : Table} {p : Session → Prop}
    (horigin : ∀ {x y : Session}, x.origin = y.origin → p x → p y) (h : ∀ x ∈ t.sessions, p x)
    {op : Operation} (hop : ∀ s now, op = .insert s now → p s) :
    ∀ x ∈ (t.apply op).sessions, p x := by
  refine keeps_apply h ?_ ?_
  · intro s now hinsert _
    exact horigin (Roster.origin_numbered t.roster t.policy s now).symm (hop s now hinsert)
  · intro id reading now _ x hx
    have hsame : x.origin = (x.hear reading now).origin := rfl
    exact horigin hsame hx

/-- What holds of every session goes on to hold over a run, if each of its inserts and readings
keeps it. -/
theorem keeps_run {t : Table} {operations : List Operation} {p : Session → Prop}
    (h : ∀ x ∈ t.sessions, p x)
    (hinsert : ∀ s now, .insert s now ∈ operations → ∀ r policy,
      p (Roster.numbered r policy s now))
    (hhear : ∀ id reading now, .updateReading id reading now ∈ operations →
      ∀ x, p x → p (x.hear reading now)) :
    ∀ x ∈ (t.run operations).sessions, p x := by
  induction operations generalizing t with
  | nil => exact h
  | cons op operations ih =>
    have hfirst : ∀ x ∈ (t.apply op).sessions, p x := by
      refine keeps_apply h ?_ ?_
      · rintro s now rfl -
        exact hinsert s now List.mem_cons_self _ _
      · rintro id reading now rfl
        exact hhear id reading now List.mem_cons_self
    refine ih hfirst ?_ ?_
    · exact fun s now hmem => hinsert s now (List.mem_cons_of_mem op hmem)
    · exact fun id reading now hmem => hhear id reading now (List.mem_cons_of_mem op hmem)

/-- No operation moves the ceiling. -/
@[simp] theorem ceiling_apply (t : Table) (op : Operation) :
    (t.apply op).ledger.ceiling = t.ledger.ceiling := by
  cases op with
  | insert s now =>
    rcases insert_cases t s now with ⟨-, heq⟩ | ⟨l, existing, hl, -, heq⟩ | ⟨l, hl, -, heq⟩
    · simp only [apply, heq]
      rfl
    · simp only [apply, heq]
      exact (Admission.Ledger.ceiling_release l s.address).trans
        (Admission.Ledger.ceiling_of_allow? hl)
    · simp only [apply, heq]
      exact Admission.Ledger.ceiling_of_allow? hl
  | remove id => exact ceiling_removeWhere t _
  | removeLink ticket => exact ceiling_removeWhere t _
  | updateReading id reading now =>
    rcases updateReading_cases t id reading now with heq | heq
    · simp only [apply, heq]
    · simp only [apply, heq]
  | reapIdle steady timeout => exact ceiling_tearDownAll _ _ _
  | clear => exact ceiling_tearDownAll _ _ _
  | setRunningPort port => rfl

@[simp] theorem ceiling_run (t : Table) (operations : List Operation) :
    (t.run operations).ledger.ceiling = t.ledger.ceiling := by
  induction operations generalizing t with
  | nil => rfl
  | cons op rest ih => exact (ih (t.apply op)).trans (ceiling_apply t op)

end SensorGateway.Table
