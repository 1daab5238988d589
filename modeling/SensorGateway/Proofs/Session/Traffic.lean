import SensorGateway.Proofs.Session.Progress

/-!
Operations of the session table that run at the same time.

`Traffic` is a table with the operations that are in flight, any number of them. A move begins an
operation or lets one of them take its next step, so the lists of moves are the interleavings. Two
records are kept beside it: the sessions that were granted a permit, and those whose permit was
given back.

`permits_accounted` says where every permit is. Roster and ledger disagree while operations are
under way, and the difference is what these hold in their hands: an insert between its permit and
the end of its second step, and a departure between the taking out and the last permit given back.
The invariant behind it has two parts. `Accounted.conserved` follows the sessions: those that were
granted a permit are registered, in the hands of an operation, or done with, and each is in one
place only. `Accounted.ledger` follows the counts: one up for a grant and one down for a return.
That a return never meets a count of zero is a consequence of both, and the second cannot be kept up
without it, since the ledger would stop at zero silently.
-/

set_option autoImplicit false

namespace SensorGateway.Table

/-- **A table and the operations in flight.** -/
structure Traffic where
  table : Table
  /-- How far each operation has come that was begun so far, the first one first. -/
  flight : List Progress := []
  /-- The sessions that were granted a permit, the latest first. -/
  granted : List Session := []
  /-- The sessions whose permit was given back, the latest first. -/
  returned : List Session := []

/-- A move of the traffic. -/
inductive Move where
  /-- An operation is called. -/
  | begin (op : Operation)
  /-- The operation with a number takes its next step. -/
  | advance (i : Nat)

namespace Traffic

/-- No operation is under way, and none has been. -/
def empty (policy : IdPolicy) (ceiling capacity : Nat) : Traffic :=
  { table := fresh policy ceiling capacity }

/-- The traffic after one move. -/
def move (f : Traffic) : Move → Traffic
  | .begin op => { f with flight := f.flight ++ [.begun op] }
  | .advance i =>
    match f.flight[i]? with
    | none => f
    | some p =>
      { table := (f.table.advance p).2
        flight := f.flight.set i (f.table.advance p).1
        granted := (f.table.grants p).toList ++ f.granted
        returned := p.gives.toList ++ f.returned }

/-- **The traffic after a list of moves,** the first one first. -/
def run (f : Traffic) (moves : List Move) : Traffic := moves.foldl move f

/-- The sessions of inserts that hold a permit and have neither entered it nor given it back. -/
def inserting (f : Traffic) : List Session := f.flight.flatMap Progress.inserting

/-- The sessions that were taken out and have yet to give their permits back. -/
def unlinked (f : Traffic) : List Session := f.flight.flatMap Progress.unlinked

/-- A step of one operation changes the table, how far that operation has come, and the two
records. -/
theorem move_advance {f : Traffic} {i : Nat} {p : Progress} (hp : f.flight[i]? = some p) :
    f.move (.advance i) =
      { table := (f.table.advance p).2
        flight := f.flight.set i (f.table.advance p).1
        granted := (f.table.grants p).toList ++ f.granted
        returned := p.gives.toList ++ f.returned } := by
  simp only [move, hp]

theorem move_advance_none {f : Traffic} {i : Nat} (hp : f.flight[i]? = none) :
    f.move (.advance i) = f := by
  simp only [move, hp]

/-! ## The change of one operation among many -/

/-- Replacing one element changes what is gathered from a list by what it held and holds. -/
theorem perm_flatMap_set {α β : Type} {xs : List α} {i : Nat} {x : α} (h : xs[i]? = some x)
    (x' : α) (part : α → List β) :
    ((xs.set i x').flatMap part ++ part x).Perm (xs.flatMap part ++ part x') := by
  -- along the list up to the element that is replaced
  induction xs generalizing i with
  | nil => cases h
  | cons y rest ih =>
    rcases i with _ | i
    · have hy : y = x := by simpa using h
      rw [hy, List.set_cons_zero, List.flatMap_cons, List.flatMap_cons, List.append_assoc,
        List.append_assoc]
      -- the old part and the new one change places around the rest
      have hswap : (rest.flatMap part ++ part x ++ part x').Perm
          (part x ++ rest.flatMap part ++ part x') :=
        List.perm_append_comm.append_right (part x')
      rw [List.append_assoc (part x)] at hswap
      exact List.perm_append_comm.trans hswap
    · have hrest := ih (by simpa using h)
      rw [List.set_cons_succ, List.flatMap_cons, List.flatMap_cons, List.append_assoc,
        List.append_assoc]
      exact hrest.append_left _

/-- So a step changes what all operations hold by what its own operation held and holds. -/
theorem occurrences_flatMap_set {flight : List Progress} {i : Nat} {p : Progress}
    (h : flight[i]? = some p) (p' : Progress) (part : Progress → List Session) (x : Session) :
    occurrences x ((flight.set i p').flatMap part) + occurrences x (part p)
      = occurrences x (flight.flatMap part) + occurrences x (part p') := by
  rw [← occurrences_append, ← occurrences_append]
  exact ((perm_flatMap_set h p' part).map Session.origin).count_eq x

/-! ## The invariant -/

/-- **Every permit is accounted for.** -/
structure Accounted (f : Traffic) : Prop where
  conserved : ∀ x, occurrences x f.granted
    = occurrences x f.table.sessions + occurrences x f.inserting + occurrences x f.unlinked
      + occurrences x f.returned
  ledger : ∀ address, f.table.ledger.count address + headcount address f.returned
    = headcount address f.granted
  withinCeiling : ∀ address, f.table.ledger.count address ≤ f.table.ledger.ceiling

theorem accounted_empty (policy : IdPolicy) (ceiling capacity : Nat) :
    (empty policy ceiling capacity).Accounted :=
  ⟨fun _ => rfl, fun _ => rfl, fun _ => Nat.zero_le _⟩

variable {f : Traffic}

/-- The sessions that were granted a permit are, each once, registered, in the hands of an
operation, or done with. -/
theorem Accounted.perm (h : f.Accounted) :
    (f.granted.map Session.origin).Perm
      ((f.table.sessions ++ f.inserting ++ f.unlinked ++ f.returned).map Session.origin) := by
  rw [List.perm_iff_count]
  intro x
  refine (h.conserved x).trans ?_
  show _ = occurrences x (f.table.sessions ++ f.inserting ++ f.unlinked ++ f.returned)
  simp only [occurrences_append]

/-- Sessions that came alike come from the same address. -/
theorem headcount_of_perm {sessions more : List Session}
    (h : (sessions.map Session.origin).Perm (more.map Session.origin)) (address : String) :
    headcount address sessions = headcount address more := by
  have hcount := h.countP_eq fun s => decide (s.address = address)
  rw [List.countP_map, List.countP_map] at hcount
  exact hcount

/-- **The equation of permits:** what an address holds in the ledger, it holds in the roster or in
the hands of an operation. -/
theorem Accounted.count_eq (h : f.Accounted) (address : String) :
    f.table.ledger.count address = f.table.registered address + headcount address f.inserting
      + headcount address f.unlinked := by
  have hledger := h.ledger address
  have hcount := headcount_of_perm h.perm address
  simp only [headcount_append] at hcount
  unfold registered
  omega

/-- **A permit that goes back is one that the ledger has counted.** -/
theorem Accounted.count_pos (h : f.Accounted) {p : Progress} (hp : p ∈ f.flight) {s : Session}
    (hs : p.gives = some s) : 0 < f.table.ledger.count s.address := by
  have hmem : s ∈ f.inserting ++ f.unlinked := by
    rcases List.mem_append.mp (Progress.mem_of_gives hs) with hin | hin
    · exact List.mem_append_left _ (List.mem_flatMap.mpr ⟨p, hp, hin⟩)
    · exact List.mem_append_right _ (List.mem_flatMap.mpr ⟨p, hp, hin⟩)
  have hpos : 0 < headcount s.address (f.inserting ++ f.unlinked) :=
    List.countP_pos_iff.mpr ⟨s, hmem, by simp⟩
  rw [headcount_append] at hpos
  have hcount := h.count_eq s.address
  omega

/-! ## Moves and runs -/

/-- Calling an operation takes no permit and gives none back. -/
theorem Accounted.begin (h : f.Accounted) (op : Operation) : (f.move (.begin op)).Accounted := by
  have hinserting : (f.move (.begin op)).inserting = f.inserting := by
    simp [move, inserting, Progress.inserting]
  have hunlinked : (f.move (.begin op)).unlinked = f.unlinked := by
    simp [move, unlinked, Progress.unlinked]
  refine ⟨fun x => ?_, h.ledger, h.withinCeiling⟩
  rw [hinserting, hunlinked]
  exact h.conserved x

/-- **A step keeps the accounts.** -/
theorem Accounted.advance (h : f.Accounted) {i : Nat} {p : Progress} (hp : f.flight[i]? = some p) :
    (f.move (.advance i)).Accounted := by
  rw [move_advance hp]
  refine ⟨fun x => ?_, fun address => ?_, fun address => ?_⟩
  · have hstep := advance_conserves f.table p x
    have hold := h.conserved x
    have hinserting := occurrences_flatMap_set hp (f.table.advance p).1 Progress.inserting x
    have hunlinked := occurrences_flatMap_set hp (f.table.advance p).1 Progress.unlinked x
    show occurrences x ((f.table.grants p).toList ++ f.granted)
      = occurrences x (f.table.advance p).2.sessions
        + occurrences x ((f.flight.set i (f.table.advance p).1).flatMap Progress.inserting)
        + occurrences x ((f.flight.set i (f.table.advance p).1).flatMap Progress.unlinked)
        + occurrences x (p.gives.toList ++ f.returned)
    rw [occurrences_append, occurrences_append]
    unfold inserting unlinked at hold
    omega
  · have hold := h.ledger address
    show (f.table.advance p).2.ledger.count address
        + headcount address (p.gives.toList ++ f.returned)
      = headcount address ((f.table.grants p).toList ++ f.granted)
    rcases ledger_advance f.table p with
      ⟨s, l, hgrants, hgives, hl, hledger⟩ | ⟨s, hgrants, hgives, hledger⟩
      | ⟨hgrants, hgives, hledger⟩
    · rw [hgrants, hgives, hledger, Admission.Ledger.count_of_allow? hl]
      show _ + headcount address f.returned = headcount address (s :: f.granted)
      rw [headcount_cons]
      split <;> omega
    · have hpos := h.count_pos (List.mem_of_getElem? hp) hgives
      rw [hgrants, hgives, hledger, Admission.Ledger.count_release]
      show _ + headcount address (s :: f.returned) = headcount address f.granted
      rw [headcount_cons]
      -- Here it matters that the count is not zero: the ledger would not go below.
      by_cases haddress : address = s.address
      · rw [← haddress] at hpos
        rw [if_pos haddress, if_pos haddress]
        omega
      · rw [if_neg haddress, if_neg haddress]
        omega
    · rw [hgrants, hgives, hledger]
      exact hold
  · have hold := h.withinCeiling address
    show (f.table.advance p).2.ledger.count address ≤ (f.table.advance p).2.ledger.ceiling
    rcases ledger_advance f.table p with
      ⟨s, l, -, -, hl, hledger⟩ | ⟨s, -, -, hledger⟩ | ⟨-, -, hledger⟩
    · have hroom := Admission.Ledger.count_lt_ceiling_of_allow? hl
      rw [hledger, Admission.Ledger.count_of_allow? hl, Admission.Ledger.ceiling_of_allow? hl]
      by_cases haddress : address = s.address
      · rw [if_pos haddress, haddress]
        omega
      · rw [if_neg haddress]
        exact hold
    · rw [hledger, Admission.Ledger.count_release, Admission.Ledger.ceiling_release]
      split <;> omega
    · rw [hledger]
      exact hold

/-- Every move keeps the accounts. -/
theorem Accounted.move (h : f.Accounted) (m : Move) : (f.move m).Accounted := by
  cases m with
  | begin op => exact h.begin op
  | advance i =>
    cases hp : f.flight[i]? with
    | none =>
      rw [move_advance_none hp]
      exact h
    | some p => exact h.advance hp

/-- **So they are kept in every interleaving.** -/
theorem Accounted.run (h : f.Accounted) (moves : List Move) : (f.run moves).Accounted := by
  induction moves generalizing f with
  | nil => exact h
  | cons m rest ih => exact ih (h.move m)

/-- No move raises or lowers the ceiling. -/
theorem ceiling_move (f : Traffic) (m : Move) :
    (f.move m).table.ledger.ceiling = f.table.ledger.ceiling := by
  cases m with
  | begin op => rfl
  | advance i =>
    cases hp : f.flight[i]? with
    | none => rw [move_advance_none hp]
    | some p =>
      rw [move_advance hp]
      show (f.table.advance p).2.ledger.ceiling = f.table.ledger.ceiling
      rcases ledger_advance f.table p with
        ⟨s, l, -, -, hl, hledger⟩ | ⟨s, -, -, hledger⟩ | ⟨-, -, hledger⟩
      · rw [hledger, Admission.Ledger.ceiling_of_allow? hl]
      · rw [hledger, Admission.Ledger.ceiling_release]
      · rw [hledger]

theorem ceiling_run (f : Traffic) (moves : List Move) :
    (f.run moves).table.ledger.ceiling = f.table.ledger.ceiling := by
  induction moves generalizing f with
  | nil => rfl
  | cons m rest ih => exact (ih (f.move m)).trans (ceiling_move f m)

end Traffic

/-! ## Where every permit is -/

/-- **Permits under any interleaving.** For any ceiling and capacity, after any list of moves from
an empty table: what an address holds in the ledger is the number of its registered sessions, of the
sessions that its inserts hold a permit for, and of its sessions that were taken out and have yet to
give theirs back. So no address has more registered sessions than the ceiling; a permit that goes
back never meets a count of zero; every session that was granted a permit is in one place,
registered, in the hands of one operation, or done with, so where links differ no link is done with
twice; and when nothing is in flight the ledger counts the registered sessions. -/
theorem permits_accounted (policy : IdPolicy) (ceiling capacity : Nat) (moves : List Move) :
    let f := (Traffic.empty policy ceiling capacity).run moves
    (∀ address, f.table.ledger.count address
        = f.table.registered address + headcount address f.inserting + headcount address f.unlinked)
      ∧ (∀ address, f.table.registered address ≤ ceiling)
      ∧ (∀ p ∈ f.flight, ∀ s, p.gives = some s → 0 < f.table.ledger.count s.address)
      ∧ (f.granted.map Session.origin).Perm
          ((f.table.sessions ++ f.inserting ++ f.unlinked ++ f.returned).map Session.origin)
      ∧ ((f.granted.map Session.link).Nodup →
          ((f.table.sessions ++ f.inserting ++ f.unlinked ++ f.returned).map Session.link).Nodup)
      ∧ ((∀ p ∈ f.flight, p.isOver = true) →
          ∀ address, f.table.ledger.count address = f.table.registered address) := by
  intro f
  have h : f.Accounted := (Traffic.accounted_empty policy ceiling capacity).run moves
  have hceiling : f.table.ledger.ceiling = ceiling :=
    Traffic.ceiling_run (Traffic.empty policy ceiling capacity) moves
  refine ⟨h.count_eq, fun address => ?_, fun p hp s hs => h.count_pos hp hs, h.perm,
    fun hlinks => ?_, fun hquiet address => ?_⟩
  · have hcount := h.count_eq address
    have hbound := h.withinCeiling address
    rw [hceiling] at hbound
    omega
  · have hperm := h.perm.map Session.link
    rw [List.map_map, List.map_map] at hperm
    exact hperm.nodup_iff.mp hlinks
  · -- operations that are over have nothing in their hands, so two terms of the equation are zero
    have hinserting : f.inserting = [] :=
      List.flatMap_eq_nil_iff.mpr fun p hp => Progress.inserting_of_isOver (hquiet p hp)
    have hunlinked : f.unlinked = [] :=
      List.flatMap_eq_nil_iff.mpr fun p hp => Progress.unlinked_of_isOver (hquiet p hp)
    have hcount := h.count_eq address
    rw [hinserting, hunlinked] at hcount
    exact hcount

end SensorGateway.Table
