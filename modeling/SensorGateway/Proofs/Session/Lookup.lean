import SensorGateway.Proofs.Session.Departures

/-!
The session that a number names.

Three operations look for a session by its number: one shows it, one notes a reading at it, one
takes it out. Numbers repeat, so a number may belong to several registered sessions, and each
operation has a search of its own. `newest_of_number` says that they reach the same session, the
newest with the number, and what they leave alone.

A list in which a search finds something has the shape `front ++ x :: back`, with nothing in `front`
that the search is for. Each operation has one equation on that shape, and everything else is read
off there. That repeated removals go from the newest to the oldest is an induction over how many of
them there are; what carries it is that one removal takes the head of the sessions with the number
and leaves all others alone (`filter_removeWhere`, `filter_not_removeWhere`).
-/

set_option autoImplicit false

namespace SensorGateway

namespace Table

variable {t : Table} {p : Session → Bool} {x : Session} {id : SensorId}

/-! ## What a removal leaves -/

/-- A removal takes the newest of those that it is about. -/
theorem filter_removeWhere (t : Table) (p : Session → Bool) :
    (t.removeWhere p).2.sessions.filter p = (t.sessions.filter p).tail := by
  rcases hfind : t.sessions.find? p with _ | x
  · rw [removeWhere_of_none hfind]
    rw [List.find?_eq_none, ← List.filter_eq_nil_iff] at hfind
    rw [hfind]
    rfl
  · obtain ⟨front, back, hsessions, hx, hfront, heq⟩ := removeWhere_of_find? hfind
    have hnone : front.filter p = [] :=
      List.filter_eq_nil_iff.mpr fun y hy => Bool.eq_false_iff.mp (hfront y hy)
    rw [heq, hsessions]
    show (front ++ back).filter p = _
    rw [List.filter_append, List.filter_append, hnone, List.filter_cons_of_pos hx]
    rfl

/-- A removal leaves all others where they are. -/
theorem filter_not_removeWhere (t : Table) (p : Session → Bool) :
    (t.removeWhere p).2.sessions.filter (!p ·) = t.sessions.filter (!p ·) := by
  rcases hfind : t.sessions.find? p with _ | x
  · rw [removeWhere_of_none hfind]
  · obtain ⟨front, back, hsessions, hx, -, heq⟩ := removeWhere_of_find? hfind
    have hout : (x :: back).filter (!p ·) = back.filter (!p ·) :=
      List.filter_cons_of_neg (by simp [hx])
    rw [heq, hsessions]
    show (front ++ back).filter (!p ·) = _
    rw [List.filter_append, List.filter_append, hout]

/-- A removal answers the newest of those that it is about, as disconnected. -/
theorem removeWhere_fst (t : Table) (p : Session → Bool) :
    (t.removeWhere p).1 = (t.sessions.filter p).head?.map (·.ended .disconnected) := by
  rw [List.head?_filter]
  rcases hfind : t.sessions.find? p with _ | x
  · rw [removeWhere_of_none hfind]
    rfl
  · obtain ⟨front, back, -, -, -, heq⟩ := removeWhere_of_find? hfind
    rw [heq]
    rfl

/-! ## Removing again -/

/-- The registered sessions with a number, the newest first. -/
def named (t : Table) (id : SensorId) : List Session := t.sessions.filter (·.sensor = id)

/-- The registered sessions with other numbers, the newest first. -/
def others (t : Table) (id : SensorId) : List Session := t.sessions.filter (·.sensor ≠ id)

/-- What so many removals of a number answer, the first one first, and the table after them. -/
def removals (t : Table) (id : SensorId) : Nat → List (Option Session) × Table
  | 0 => ([], t)
  | n + 1 =>
    let (gone, t) := t.remove id
    let (more, t) := removals t id n
    (gone :: more, t)

/-- A look-up shows the newest session with the number. -/
theorem find?_eq_head? (t : Table) (id : SensorId) : t.find? id = (t.named id).head? :=
  List.head?_filter.symm

/-- A removal takes that one out of those with the number, -/
theorem named_remove (t : Table) (id : SensorId) :
    (t.remove id).2.named id = (t.named id).tail :=
  filter_removeWhere t _

/-- and none of the others. -/
theorem others_remove (t : Table) (id : SensorId) : (t.remove id).2.others id = t.others id := by
  have hothers : ∀ t : Table, t.others id = t.sessions.filter (fun s => !decide (s.sensor = id)) :=
    fun t => List.filter_congr fun y _ => decide_not
  rw [hothers, hothers]
  exact filter_not_removeWhere t _

/-- **Repeated removals take out the sessions with a number from the newest to the oldest.** -/
theorem removals_spec (t : Table) (id : SensorId) (n : Nat) :
    (t.removals id n).1
        = (List.range n).map (fun k => (t.named id)[k]?.map (·.ended .disconnected))
      ∧ (t.removals id n).2.named id = (t.named id).drop n
      ∧ (t.removals id n).2.others id = t.others id
      ∧ (t.removals id n).2.sessions.Sublist t.sessions := by
  induction n generalizing t with
  | zero => exact ⟨rfl, rfl, rfl, List.Sublist.refl _⟩
  | succ n ih =>
    obtain ⟨hanswers, hnamed, hothers, hkept⟩ := ih (t.remove id).2
    -- the first removal answers the newest, and the rest is about the table that it leaves
    have hfirst : (t.remove id).1 = (t.named id)[0]?.map (·.ended .disconnected) := by
      rw [← List.head?_eq_getElem?]
      exact removeWhere_fst t _
    refine ⟨?_, ?_, hothers.trans (others_remove t id), hkept.trans (sublist_removeWhere t _)⟩
    · show (t.remove id).1 :: ((t.remove id).2.removals id n).1 = _
      rw [hanswers, hfirst, named_remove, List.range_succ_eq_map, List.map_cons, List.map_map]
      simp only [List.getElem?_tail, Function.comp_def]
    · refine hnamed.trans ?_
      rw [named_remove, List.drop_tail]

/-! ## The three operations -/

/-- Noting a reading at a number that is there. -/
theorem updateReading_of_find? (h : t.find? id = some x) (reading : Reading) (now : Moment)
    {front back : List Session} (hsessions : t.sessions = front ++ x :: back)
    (hx : x.sensor = id) (hfront : ∀ y ∈ front, y.sensor ≠ id) :
    t.updateReading id reading now = (true, { t with roster := { t.roster with
      sessions := front ++ x.hear reading now :: back } }) := by
  -- the adjustment meets the same session as the search, since nobody in front has the number
  have hadjusted : Roster.adjustFirst (·.sensor = id) (·.hear reading now) t.roster.sessions
      = front ++ x.hear reading now :: back := by
    show Roster.adjustFirst _ _ t.sessions = _
    rw [hsessions]
    exact Roster.adjustFirst_append (by simpa using hfront) (by simpa using hx) _ back
  have hroster : t.roster.find? id = some x := h
  simp only [updateReading, Roster.update?, hroster, hadjusted]

/-- Where the number is not there, both operations leave the table as it is. -/
theorem unchanged_of_absent (h : t.find? id = none) (reading : Reading) (now : Moment) :
    t.updateReading id reading now = (false, t) ∧ t.remove id = (none, t) := by
  have hroster : t.roster.find? id = none := h
  exact ⟨by simp only [updateReading, Roster.update?, hroster], removeWhere_of_none h⟩

/-- Where the number is there, both operations are about the session that the look-up shows. -/
theorem reached_of_find? (h : t.find? id = some x) (reading : Reading) (now : Moment) :
    ∃ front back, t.sessions = front ++ x :: back ∧ x.sensor = id ∧ (∀ y ∈ front, y.sensor ≠ id)
      ∧ t.updateReading id reading now = (true, { t with roster := { t.roster with
          sessions := front ++ x.hear reading now :: back } })
      ∧ t.remove id = (some (x.ended .disconnected),
          { t with
            ledger := t.ledger.release x.address
            roster := { t.roster with
              sessions := front ++ back, activeCount := t.roster.activeCount - 1 }
            released := x.link.toList ++ t.released }) := by
  obtain ⟨front, back, hsessions, hid, hfront, hremove⟩ := removeWhere_of_find? h
  have hid : x.sensor = id := by simpa using hid
  have hfront : ∀ y ∈ front, y.sensor ≠ id := by simpa using hfront
  exact ⟨front, back, hsessions, hid, hfront,
    updateReading_of_find? h reading now hsessions hid hfront, hremove⟩

/-- A registered session is counted, and its address holds a permit that can be given back. -/
theorem Balanced.pos_of_mem (h : t.Balanced) (hx : x ∈ t.sessions) :
    0 < t.activeCount ∧ 0 < t.ledger.count x.address := by
  rw [h.counted, h.permits x.address]
  refine ⟨List.length_pos_of_mem hx, ?_⟩
  obtain ⟨front, back, hsessions⟩ := List.append_of_mem hx
  show 0 < headcount x.address t.sessions
  rw [hsessions, headcount_append, headcount_cons, if_pos rfl]
  omega

/-- **A number names the newest session that has it.** In a table that any run of operations has
led to, under either policy and although numbers may repeat: looking a number up, noting a reading
at it and removing it succeed together, and where they fail they change nothing. Where they succeed
they are about the newest session with the number. The reading and the times of activity are all
that a reading changes, and the session is then shown with it. A removal answers the session as it
was shown, but inactive, disconnected and without its link; it takes out that session and no other,
gives one permit back to its address and none to any other, and closes its link. Repeated removals
take out the sessions with the number from the newest to the oldest, until none is found, and leave
all others where they are. -/
theorem newest_of_number (policy : IdPolicy) (ceiling capacity : Nat) (operations : List Operation)
    (id : SensorId) (reading : Reading) (now : Moment) :
    let t := (fresh policy ceiling capacity).run operations
    (t.updateReading id reading now).1 = (t.find? id).isSome
      ∧ (t.remove id).1.isSome = (t.find? id).isSome
      ∧ (t.find? id = none →
          t.updateReading id reading now = (false, t) ∧ t.remove id = (none, t))
      ∧ (∀ x, t.find? id = some x → ∃ front back, t.sessions = front ++ x :: back
          ∧ x.sensor = id ∧ (∀ y ∈ front, y.sensor ≠ id)
          ∧ (let heard :=
              { x with latest := reading, lastActive := now.wall, lastSeen := now.steady }
            (t.updateReading id reading now).2
                = { t with roster := { t.roster with sessions := front ++ heard :: back } }
              ∧ (t.updateReading id reading now).2.find? id = some heard)
          ∧ (t.remove id).1 = some { x with active := false, status := .disconnected, link := none }
          ∧ (t.remove id).2 =
              { t with
                ledger := t.ledger.release x.address
                roster := { t.roster with
                  sessions := front ++ back, activeCount := t.roster.activeCount - 1 }
                released := x.link.toList ++ t.released }
          ∧ (t.remove id).2.activeCount + 1 = t.activeCount
          ∧ (t.remove id).2.ledger.count x.address + 1 = t.ledger.count x.address
          ∧ ∀ address, address ≠ x.address →
              (t.remove id).2.ledger.count address = t.ledger.count address)
      ∧ ∀ n, (t.removals id n).1
            = (List.range n).map (fun k => (t.named id)[k]?.map (·.ended .disconnected))
          ∧ (t.removals id n).2.find? id = (t.named id)[n]?
          ∧ (t.removals id n).2.named id = (t.named id).drop n
          ∧ (t.removals id n).2.others id = t.others id
          ∧ (t.removals id n).2.sessions.Sublist t.sessions := by
  intro t
  -- the counts go down by one exactly because they count the session that leaves
  have hbalanced : t.Balanced := (balanced_fresh policy ceiling capacity).run operations
  refine ⟨?_, ?_, fun hnone => unchanged_of_absent hnone reading now, fun x hx => ?_, fun n => ?_⟩
  · rcases hfind : t.find? id with _ | x
    · rw [(unchanged_of_absent hfind reading now).1]
      rfl
    · obtain ⟨front, back, -, -, -, hupdate, -⟩ := reached_of_find? hfind reading now
      rw [hupdate]
      rfl
  · rcases hfind : t.find? id with _ | x
    · rw [(unchanged_of_absent hfind reading now).2]
    · obtain ⟨front, back, -, -, -, -, hremove⟩ := reached_of_find? hfind reading now
      rw [hremove]
      rfl
  · obtain ⟨front, back, hsessions, hid, hfront, hupdate, hremove⟩ :=
      reached_of_find? hx reading now
    obtain ⟨hcounted, hpermit⟩ := hbalanced.pos_of_mem (List.mem_of_find?_eq_some hx)
    refine ⟨front, back, hsessions, hid, hfront, ⟨by rw [hupdate]; rfl, ?_⟩, by rw [hremove]; rfl,
      by rw [hremove], ?_, ?_, fun address hother => ?_⟩
    · rw [hupdate]
      refine List.find?_eq_some_iff_append.mpr ⟨by simpa using hid, front, back, rfl, ?_⟩
      simpa using hfront
    · rw [hremove]
      exact Nat.sub_add_cancel hcounted
    · rw [hremove]
      show (t.ledger.release x.address).count x.address + 1 = _
      rw [Admission.Ledger.count_release, if_pos rfl, Nat.sub_add_cancel hpermit]
    · rw [hremove]
      show (t.ledger.release x.address).count address = _
      rw [Admission.Ledger.count_release, if_neg hother]
  · obtain ⟨hanswers, hnamed, hothers, hkept⟩ := removals_spec t id n
    refine ⟨hanswers, ?_, hnamed, hothers, hkept⟩
    rw [find?_eq_head?, hnamed, List.head?_drop]

end Table

end SensorGateway
