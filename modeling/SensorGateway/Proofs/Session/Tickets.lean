import SensorGateway.Proofs.Session.Progress

/-!
The tickets of links.

A table holds the ticket of a link as long as a session of it is registered, and keeps a record of
those that it has let go. Between the two an operation may have the ticket in its hands: an insert
until its session is entered or turned away, and whoever takes a session out until it is torn down.

No step loses a ticket or makes one up (`tickets_advance`), so no operation does (`tickets_apply`).
A step adds to the links of the registered sessions only that of a session it enters
(`link_advance`).
-/

set_option autoImplicit false

namespace SensorGateway.Table

/-- **The tickets that a table was given:** those that it holds and those that it has let go. -/
def tickets (t : Table) : List Ticket := t.sessions.filterMap Session.link ++ t.released

/-- The tickets of the sessions that an operation has in its hands. -/
def Progress.tickets : Progress → List Ticket
  | begun (.insert s _) => s.link.toList
  | permitted s _ => s.link.toList
  | refused s => s.link.toList
  | leaving gone _ => gone.filterMap Session.link
  | _ => []

/-- The session of an insert that is under way and has not entered it. -/
def Progress.brings? : Progress → Option Session
  | begun (.insert s _) => some s
  | permitted s _ => some s
  | refused s => some s
  | _ => none

/-- The session that the next step of an operation enters. -/
def enters (t : Table) : Progress → Option Session
  | .permitted s now =>
    match t.enter s now with
    | .ok _ => some s
    | .error _ => none
  | _ => none

/-- The ticket of the first session comes first, if it has one. -/
theorem filterMap_link_cons (s : Session) (sessions : List Session) :
    (s :: sessions).filterMap Session.link
      = s.link.toList ++ sessions.filterMap Session.link := by
  rcases hlink : s.link with _ | k
  · rw [List.filterMap_cons_none hlink]
    rfl
  · rw [List.filterMap_cons_some hlink]
    rfl

/-- An operation has the ticket of the session it brings, and those of the sessions it has taken
out. -/
theorem Progress.tickets_eq (p : Progress) :
    p.tickets = (p.brings?.bind Session.link).toList ++ p.unlinked.filterMap Session.link := by
  rcases p with op | ⟨s, now⟩ | s | ⟨gone, status⟩ | entered
  · rcases op with ⟨s, now⟩ | id | ticket | ⟨id, reading, now⟩ | ⟨steady, timeout⟩ | _ | port
    · exact (List.append_nil _).symm
    · rfl
    · rfl
    · rfl
    · rfl
    · rfl
    · rfl
  · exact (List.append_nil _).symm
  · exact (List.append_nil _).symm
  · rfl
  · rfl

/-- A session that is entered is that of the insert. -/
theorem brings?_of_enters {t : Table} {p : Progress} {s : Session} (h : t.enters p = some s) :
    p.brings? = some s := by
  rcases p with op | ⟨x, now⟩ | x | ⟨gone, status⟩ | entered
  · cases h
  · rcases hport : t.roster.connectedOnPort? x.port with _ | existing
    · simp only [enters, enter, hport] at h
      exact h
    · simp only [enters, enter, hport] at h
      cases h
  · cases h
  · cases h
  · cases h

/-- An operation is an insert from its beginning, and of the same session. -/
theorem brings?_of_advance {t : Table} {p : Progress} {s : Session}
    (h : (t.advance p).1.brings? = some s) : p.brings? = some s := by
  have hunlink : ∀ q, (t.unlinkFirst q).1.brings? = none := by
    intro q
    unfold unlinkFirst
    split
    · rfl
    · rfl
  rcases p with op | ⟨x, now⟩ | x | ⟨_ | ⟨x, rest⟩, status⟩ | entered
  · rcases op with ⟨x, now⟩ | id | ticket | ⟨id, reading, now⟩ | ⟨steady, timeout⟩ | _ | port
    · rcases hl : t.ledger.allow? x.address with _ | l
      · simp only [advance, start, permit?, hl] at h
        cases h
      · simp only [advance, start, permit?, hl] at h
        exact h
    · exact absurd h (by simp [advance, start, hunlink])
    · exact absurd h (by simp [advance, start, hunlink])
    · cases h
    · cases h
    · cases h
    · cases h
  · rcases hport : t.roster.connectedOnPort? x.port with _ | existing
    · simp only [advance, enter, hport] at h
      cases h
    · simp only [advance, enter, hport] at h
      exact h
  · cases h
  · cases h
  · cases h
  · cases h

/-! ## Where tickets go -/

/-- Whoever is taken out takes the ticket along. -/
theorem tickets_of_takesOut {t : Table} {gone : List Session} {r : Roster}
    (h : t.roster.TakesOut gone r) :
    ({ t with roster := r }.tickets ++ gone.filterMap Session.link).Perm t.tickets := by
  have hsessions := h.perm.filterMap Session.link
  rw [List.filterMap_append] at hsessions
  have hsplit : t.tickets.Perm (gone.filterMap Session.link ++ { t with roster := r }.tickets) := by
    unfold tickets
    rw [← List.append_assoc]
    exact hsessions.append_right t.released
  exact List.perm_append_comm.trans hsplit.symm

/-- A removal has the ticket of the session that it takes out. -/
theorem tickets_unlinkFirst (t : Table) (p : Session → Bool) :
    ((t.unlinkFirst p).2.tickets ++ (t.unlinkFirst p).1.tickets).Perm t.tickets := by
  unfold unlinkFirst
  rcases htake : t.roster.take? p with _ | ⟨s, r⟩
  · simp only [Progress.tickets, List.append_nil]
    exact List.Perm.refl _
  · exact tickets_of_takesOut (Roster.takesOut_take? htake)

theorem tickets_letGo (t : Table) (s : Session) :
    (t.letGo s).tickets.Perm (t.tickets ++ s.link.toList) := by
  have hback : (t.sessions.filterMap Session.link ++ (s.link.toList ++ t.released)).Perm
      (t.sessions.filterMap Session.link ++ (t.released ++ s.link.toList)) :=
    List.perm_append_comm.append_left _
  rw [← List.append_assoc _ t.released] at hback
  exact hback

theorem links_updateReading (t : Table) (id : SensorId) (reading : Reading) (now : Moment) :
    (t.updateReading id reading now).2.sessions.map Session.link
      = t.sessions.map Session.link := by
  rcases updateReading_cases t id reading now with heq | heq
  · rw [heq]
  · rw [heq]
    exact Roster.map_adjustFirst (fun s => decide (s.sensor = id)) (·.hear reading now)
      Session.link (fun _ => rfl) t.sessions

theorem tickets_updateReading (t : Table) (id : SensorId) (reading : Reading) (now : Moment) :
    (t.updateReading id reading now).2.tickets = t.tickets := by
  have hlinks := congrArg (List.filterMap fun link => link) (links_updateReading t id reading now)
  rw [List.filterMap_map, List.filterMap_map] at hlinks
  have hreleased : (t.updateReading id reading now).2.released = t.released := by
    rcases updateReading_cases t id reading now with heq | heq
    · rw [heq]
    · rw [heq]
  unfold tickets
  rw [hreleased]
  exact congrArg (· ++ t.released) hlinks

/-! ## Steps -/

/-- The first step of an operation moves the tickets of those whom it takes out, or brings one. -/
theorem tickets_start (t : Table) (op : Operation) :
    ((t.start op).2.tickets ++ (t.start op).1.tickets).Perm
      (t.tickets ++ (Progress.begun op).tickets) := by
  -- only an insert comes with a ticket
  have hnone : (t.tickets ++ []).Perm t.tickets := by rw [List.append_nil]
  rcases op with ⟨s, now⟩ | id | ticket | ⟨id, reading, now⟩ | ⟨steady, timeout⟩ | _ | port
  · rcases hl : t.ledger.allow? s.address with _ | l
    · simp only [start, permit?, hl, Progress.tickets, List.append_nil]
      exact tickets_letGo t s
    · simp only [start, permit?, hl]
      exact List.Perm.refl _
  · exact (tickets_unlinkFirst t _).trans hnone.symm
  · exact (tickets_unlinkFirst t _).trans hnone.symm
  · simp only [start, Progress.tickets, List.append_nil, tickets_updateReading]
    exact List.Perm.refl _
  · have htaken := tickets_of_takesOut (Roster.takesOut_takeExpired t.roster steady timeout)
    exact htaken.trans hnone.symm
  · have htaken := tickets_of_takesOut (Roster.takesOut_takeAll t.roster)
    exact htaken.trans hnone.symm
  · exact List.Perm.refl _

/-- **No step loses a ticket,** and none makes one up. -/
theorem tickets_advance (t : Table) (p : Progress) :
    ((t.advance p).2.tickets ++ (t.advance p).1.tickets).Perm (t.tickets ++ p.tickets) := by
  rcases p with op | ⟨s, now⟩ | s | ⟨_ | ⟨s, rest⟩, status⟩ | entered
  · exact tickets_start t op
  · rcases hport : t.roster.connectedOnPort? s.port with _ | existing
    · simp only [advance, enter, hport, Progress.tickets, List.append_nil]
      unfold tickets sessions
      rw [Roster.sessions_push, filterMap_link_cons, List.append_assoc]
      exact List.perm_append_comm
    · simp only [advance, enter, hport]
      exact List.Perm.refl _
  · simp only [advance, Progress.tickets, List.append_nil]
    exact tickets_letGo (t.giveBack s.address) s
  · exact List.Perm.refl _
  · have hgone := tickets_letGo (t.giveBack s.address) s
    simp only [advance, Progress.tickets, filterMap_link_cons]
    rw [← List.append_assoc]
    exact hgone.append_right _
  · exact List.Perm.refl _

/-- **No operation loses a ticket,** and none makes one up: an insert brings that of its session. -/
theorem tickets_apply (t : Table) (op : Operation) :
    (t.apply op).tickets.Perm (t.tickets ++ (Progress.begun op).tickets) := by
  have hundisturbed : ∀ {p : Progress} {t t' : Table} {entered : Option SensorId},
      Undisturbed p t entered t' → t'.tickets.Perm (t.tickets ++ p.tickets) := by
    -- the law of one step, along the steps of an operation that nothing comes between
    intro p t t' entered h
    induction h with
    | finished entered t =>
      simp only [Progress.tickets, List.append_nil]
      exact List.Perm.refl _
    | step h ih => exact ih.trans (tickets_advance _ _)
  exact hundisturbed (undisturbed_apply t op)

theorem link_unlinkFirst {t : Table} {p : Session → Bool} {x : Session}
    (hx : x ∈ (t.unlinkFirst p).2.sessions) : x ∈ t.sessions := by
  unfold unlinkFirst at hx
  rcases htake : t.roster.take? p with _ | ⟨s, r⟩
  · rw [htake] at hx
    exact hx
  · rw [htake] at hx
    exact (Roster.takesOut_take? htake).kept.subset hx

/-- The first step of an operation makes no link. -/
theorem link_start {t : Table} {op : Operation} {x : Session}
    (hx : x ∈ (t.start op).2.sessions) : ∃ y ∈ t.sessions, y.link = x.link := by
  rcases op with ⟨s, now⟩ | id | ticket | ⟨id, reading, now⟩ | ⟨steady, timeout⟩ | _ | port
  · refine ⟨x, ?_, rfl⟩
    rcases hl : t.ledger.allow? s.address with _ | l
    · simp only [start, permit?, hl] at hx
      exact hx
    · simp only [start, permit?, hl] at hx
      exact hx
  · exact ⟨x, link_unlinkFirst hx, rfl⟩
  · exact ⟨x, link_unlinkFirst hx, rfl⟩
  · -- the session that hears a reading is another one, with the same link
    have hlink : x.link ∈ (t.updateReading id reading now).2.sessions.map Session.link :=
      List.mem_map_of_mem hx
    rw [links_updateReading] at hlink
    exact List.mem_map.mp hlink
  · have hkept := (Roster.takesOut_takeExpired t.roster steady timeout).kept
    exact ⟨x, hkept.subset hx, rfl⟩
  · cases hx
  · exact ⟨x, hx, rfl⟩

/-- **A step adds no link but that of the session that it enters.** -/
theorem link_advance {t : Table} {p : Progress} {x : Session}
    (hx : x ∈ (t.advance p).2.sessions) :
    (∃ y ∈ t.sessions, y.link = x.link) ∨ ∃ s, t.enters p = some s ∧ s.link = x.link := by
  rcases p with op | ⟨s, now⟩ | s | ⟨_ | ⟨s, rest⟩, status⟩ | entered
  · exact Or.inl (link_start hx)
  · rcases hport : t.roster.connectedOnPort? s.port with _ | existing
    · simp only [advance, enter, hport, sessions, Roster.sessions_push] at hx
      rcases List.mem_cons.mp hx with hnew | hold
      · refine Or.inr ⟨s, ?_, ?_⟩
        · simp only [enters, enter, hport]
        · rw [hnew]
          rfl
      · exact Or.inl ⟨x, hold, rfl⟩
    · simp only [advance, enter, hport] at hx
      exact Or.inl ⟨x, hx, rfl⟩
  · exact Or.inl ⟨x, hx, rfl⟩
  · exact Or.inl ⟨x, hx, rfl⟩
  · exact Or.inl ⟨x, hx, rfl⟩
  · exact Or.inl ⟨x, hx, rfl⟩

end SensorGateway.Table
