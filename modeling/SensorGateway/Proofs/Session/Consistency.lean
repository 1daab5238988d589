import Mathlib.Data.List.Forall2
import Mathlib.Data.List.Induction
import SensorGateway.Proofs.Session.Operations

/-!
The representation of the session table, over whole runs.

The count of sessions, the ledger of permits and the list of sessions are kept apart, and nothing in
the table compares them. `run_representation` says that they agree after every run of operations,
and what the list means: it holds the registered sessions with the latest admission first, each of
them with the slot that it was admitted to.

The order is stated without marking sessions. Beside the list stands a list of numbers of
operations, `AdmittedBy` ties each session to the insert of that number, and the numbers decrease. A
run grows at its end, where an admission has a number above all others; whoever is taken out takes
its number along; and a reading changes nothing that `AdmittedBy` looks at.
-/

set_option autoImplicit false

namespace SensorGateway.Table

/-! ## Admissions -/

/-- **A session is the one that an operation of a run admitted:** the operation is an insert, it
answered the number of the session, the session is otherwise as it was given, and its slot is how
many sessions were registered at that moment. -/
def AdmittedBy (t : Table) (operations : List Operation) (i : Nat) (s : Session) : Prop :=
  ∃ given now, operations[i]? = some (.insert given now)
    ∧ ((t.run (operations.take i)).insert given now).1 = .ok s.sensor
    ∧ s.origin = given.origin
    ∧ s.slot = (t.run (operations.take i)).sessions.length

variable {t : Table} {operations : List Operation} {i : Nat} {s : Session}

theorem AdmittedBy.lt_length (h : AdmittedBy t operations i s) : i < operations.length := by
  obtain ⟨given, now, hi, -⟩ := h
  exact (List.getElem?_eq_some_iff.mp hi).1

/-- What happens later does not change who admitted a session. -/
theorem AdmittedBy.concat (h : AdmittedBy t operations i s) (op : Operation) :
    AdmittedBy t (operations ++ [op]) i s := by
  have hlt := h.lt_length
  obtain ⟨given, now, hi, hid, horigin, hslot⟩ := h
  refine ⟨given, now, ?_, ?_, horigin, ?_⟩
  · rw [List.getElem?_append_left hlt]
    exact hi
  · rw [List.take_append_of_le_length (Nat.le_of_lt hlt)]
    exact hid
  · rw [List.take_append_of_le_length (Nat.le_of_lt hlt)]
    exact hslot

theorem AdmittedBy.hear (h : AdmittedBy t operations i s) (reading : Reading) (now : Moment) :
    AdmittedBy t operations i (s.hear reading now) := h

/-- The newest session is the one that the latest operation admitted. -/
theorem admittedBy_push (hb : (t.run operations).Balanced) {given : Session} {now : Moment}
    (hok : ((t.run operations).insert given now).1
      = .ok ((t.run operations).roster.assignedId (t.run operations).policy)) :
    AdmittedBy t (operations ++ [Operation.insert given now]) operations.length
      ((t.run operations).roster.numbered (t.run operations).policy given now) := by
  have htake : (operations ++ [Operation.insert given now]).take operations.length
      = operations := by
    simp
  refine ⟨given, now, by simp, ?_, rfl, ?_⟩
  · rw [htake]
    exact hok
  · rw [htake]
    exact hb.counted

/-! ## The order of admissions -/

/-- **The sessions stand in the reverse of the order in which they were admitted.** -/
def NewestFirst (t : Table) (operations : List Operation) (sessions : List Session) : Prop :=
  ∃ admissions : List Nat, admissions.Pairwise (· > ·)
    ∧ List.Forall₂ (AdmittedBy t operations) admissions sessions

theorem NewestFirst.concat {sessions : List Session} (h : NewestFirst t operations sessions)
    (op : Operation) : NewestFirst t (operations ++ [op]) sessions := by
  obtain ⟨admissions, horder, hall⟩ := h
  exact ⟨admissions, horder, hall.imp fun _ _ hi => hi.concat op⟩

/-- A newly admitted session stands before all others. -/
theorem NewestFirst.cons {sessions : List Session} (h : NewestFirst t operations sessions)
    {op : Operation} (hs : AdmittedBy t (operations ++ [op]) operations.length s) :
    NewestFirst t (operations ++ [op]) (s :: sessions) := by
  obtain ⟨admissions, horder, hall⟩ := h
  -- the sessions that are there were admitted by earlier operations
  have hbound : ∀ i ∈ admissions, i < operations.length := by
    clear horder
    induction hall with
    | nil => simp
    | cons hi _ ih =>
      intro i hmem
      rcases List.mem_cons.mp hmem with rfl | hmem
      · exact hi.lt_length
      · exact ih i hmem
  exact ⟨operations.length :: admissions, List.pairwise_cons.mpr ⟨hbound, horder⟩,
    .cons hs (hall.imp fun _ _ hi => hi.concat op)⟩

/-- A part of a list has the numbers of that part. -/
theorem forall₂_of_sublist {α β : Type} {R : α → β → Prop} {is : List α} {xs ys : List β}
    (h : List.Forall₂ R is xs) (hsub : ys.Sublist xs) :
    ∃ js : List α, js.Sublist is ∧ List.Forall₂ R js ys := by
  -- along the list: who is left out leaves out a number, who is kept keeps it
  induction hsub generalizing is with
  | slnil => exact ⟨is, List.Sublist.refl is, h⟩
  | cons x _ ih =>
    cases h with
    | cons _ hrest =>
      obtain ⟨js, hjs, hall⟩ := ih hrest
      exact ⟨js, hjs.cons _, hall⟩
  | cons_cons x _ ih =>
    cases h with
    | cons hx hrest =>
      obtain ⟨js, hjs, hall⟩ := ih hrest
      exact ⟨_ :: js, hjs.cons_cons _, .cons hx hall⟩

theorem NewestFirst.sublist {sessions kept : List Session} (h : NewestFirst t operations sessions)
    (hkept : kept.Sublist sessions) : NewestFirst t operations kept := by
  obtain ⟨admissions, horder, hall⟩ := h
  obtain ⟨js, hjs, hall'⟩ := forall₂_of_sublist hall hkept
  exact ⟨js, horder.sublist hjs, hall'⟩

/-- A reading leaves the order alone. -/
theorem NewestFirst.adjust {sessions : List Session} (h : NewestFirst t operations sessions)
    (p : Session → Bool) (reading : Reading) (now : Moment) :
    NewestFirst t operations (Roster.adjustFirst p (·.hear reading now) sessions) := by
  obtain ⟨admissions, horder, hall⟩ := h
  refine ⟨admissions, horder, ?_⟩
  clear horder
  induction hall with
  | nil => exact .nil
  | cons hi hrest ih =>
    rw [Roster.adjustFirst]
    split
    · exact .cons (hi.hear reading now) hrest
    · exact .cons hi ih

/-- **One operation more.** An admission goes in front, a departure shortens the list, and
everything else leaves it as it is. -/
theorem NewestFirst.apply (hb : (t.run operations).Balanced)
    (h : NewestFirst t operations (t.run operations).sessions) (op : Operation) :
    NewestFirst t (operations ++ [op]) ((t.run operations).apply op).sessions := by
  cases op with
  | insert given now =>
    rcases insert_cases (t.run operations) given now with
      ⟨-, heq⟩ | ⟨l, existing, -, -, heq⟩ | ⟨l, -, -, heq⟩
    · simp only [Table.apply, heq]
      exact h.concat _
    · simp only [Table.apply, heq]
      exact h.concat _
    · simp only [Table.apply, heq]
      exact h.cons (admittedBy_push hb (by rw [heq]))
  | remove id => exact (h.concat _).sublist (sublist_removeWhere _ _)
  | removeLink ticket => exact (h.concat _).sublist (sublist_removeWhere _ _)
  | updateReading id reading now =>
    rcases updateReading_cases (t.run operations) id reading now with heq | heq
    · simp only [Table.apply, heq]
      exact h.concat _
    · simp only [Table.apply, heq]
      exact (h.concat _).adjust _ reading now
  | reapIdle steady timeout =>
    refine (h.concat _).sublist ?_
    exact (sublist_leave (Roster.takesOut_takeExpired _ steady timeout) .timedOut)
  | clear =>
    exact (h.concat _).sublist (sublist_leave (Roster.takesOut_takeAll _) .disconnected)
  | setRunningPort port => exact h.concat _

/-- **The newest session stands first after any run.** -/
theorem newestFirst_run (hb : t.Balanced) (hempty : t.sessions = []) (operations : List Operation) :
    NewestFirst t operations (t.run operations).sessions := by
  induction operations using List.reverseRecOn with
  | nil =>
    rw [run_nil, hempty]
    exact ⟨[], .nil, .nil⟩
  | append_singleton operations op ih =>
    rw [run_concat]
    exact ih.apply (hb.run operations) op

/-! ## The representation -/

/-- **Count, ledger and list agree after every run.** Under either policy, with any ceiling and any
capacity: the count is the number of registered sessions, every address has as many permits as it
has registered sessions and no more than the ceiling, the sessions stand in the reverse of the order
of their admissions with the slots of their admissions, and a session that is turned away leaves the
roster, which is list, count, next number and running port, and every count of the ledger as they
were. -/
theorem run_representation (policy : IdPolicy) (ceiling capacity : Nat)
    (operations : List Operation) :
    let t := (fresh policy ceiling capacity).run operations
    t.activeCount = t.sessions.length
      ∧ (∀ address, t.ledger.count address = t.registered address
          ∧ t.registered address ≤ ceiling)
      ∧ (∃ admissions : List Nat, admissions.Pairwise (· > ·)
          ∧ List.Forall₂ (AdmittedBy (fresh policy ceiling capacity) operations) admissions
              t.sessions)
      ∧ ∀ s now e, (t.insert s now).1 = .error e →
          (t.insert s now).2.roster = t.roster
            ∧ ∀ address, (t.insert s now).2.ledger.count address = t.ledger.count address := by
  intro t
  have hb : t.Balanced := (balanced_fresh policy ceiling capacity).run operations
  have hceiling : t.ledger.ceiling = ceiling :=
    ceiling_run (fresh policy ceiling capacity) operations
  refine ⟨hb.counted, fun address => ⟨hb.permits address, ?_⟩, ?_, fun s now e he => ?_⟩
  · rw [← hb.permits address, ← hceiling]
    exact hb.withinCeiling address
  · exact newestFirst_run (balanced_fresh policy ceiling capacity) rfl operations
  · exact insert_refused he

end SensorGateway.Table
