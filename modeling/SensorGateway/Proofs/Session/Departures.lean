import SensorGateway.Proofs.Session.Tickets

/-!
Which sessions an operation of the table reaches, and which links it closes.

There are four ways to take sessions out of the table: by number, by link, by idleness, and all of
them. `reached` lists the sessions that an operation takes out that way, as a look at the table
finds them. `released_apply` says that the links that are closed are those of the sessions that are
reached, and that of a session which is turned away. So a link that is not among them stays open,
and since the record of closed links only grows, none is opened again.

A removal by link is the one that competes with the others. `removeLink_of_gone` and
`removeLink_of_registered` say what it does when it comes too late and when it does not.
-/

set_option autoImplicit false

namespace SensorGateway

/-! ## Splitting off an element -/

namespace Roster

/-- What is split off is the first element that a search finds. -/
theorem find?_eq_of_splitFirst {α : Type} {p : α → Bool} {xs : List α} :
    xs.find? p = (splitFirst p xs).map Prod.fst := by
  induction xs with
  | nil => rfl
  | cons x xs ih =>
    rw [splitFirst]
    by_cases hx : p x = true
    · rw [List.find?_cons_of_pos hx, if_pos hx]
      rfl
    · rw [List.find?_cons_of_neg hx, if_neg hx, ih]
      rcases splitFirst p xs with _ | ⟨y, ys⟩
      · rfl
      · rfl

/-- What is split off is what the front of the list does not have. -/
theorem splitFirst_append {α : Type} {p : α → Bool} {front : List α} {x : α}
    (hfront : ∀ y ∈ front, p y = false) (hx : p x = true) (back : List α) :
    splitFirst p (front ++ x :: back) = some (x, front ++ back) := by
  -- nobody in front is meant, so the walk comes to `x`
  induction front with
  | nil => rw [List.nil_append, splitFirst, if_pos hx, List.nil_append]
  | cons y front ih =>
    have hrest := ih fun z hz => hfront z (List.mem_cons_of_mem y hz)
    rw [List.cons_append, splitFirst, hfront y List.mem_cons_self, if_neg Bool.false_ne_true, hrest]
    rfl

/-- The session that is taken out is the one that a search finds. -/
theorem find?_eq_of_take? (r : Roster) (p : Session → Bool) :
    r.sessions.find? p = (r.take? p).map Prod.fst := by
  rw [find?_eq_of_splitFirst]
  unfold take?
  rcases splitFirst p r.sessions with _ | ⟨s, rest⟩
  · rfl
  · rfl

/-- A sweep takes out of the roster whoever a filter for the expired picks. -/
theorem takeExpired_fst (r : Roster) (steady timeout : Nat) :
    (r.takeExpired steady timeout).1 = r.sessions.filter (expired steady timeout) := by
  rw [takeExpired_eq]

end Roster

namespace Table

/-! ## What an operation reaches -/

/-- **The sessions that an operation takes out,** the newest first. -/
def reached (t : Table) : Operation → List Session
  | .remove id => (t.find? id).toList
  | .removeLink ticket => (t.sessions.find? (·.link = some ticket)).toList
  | .reapIdle steady timeout => t.sessions.filter (Roster.expired steady timeout)
  | .clear => t.sessions
  | .insert .. => []
  | .updateReading .. => []
  | .setRunningPort .. => []

/-- **The links that an operation closes:** those of the sessions that it reaches, and that of a
session which it turns away. -/
def closes (t : Table) : Operation → List Ticket
  | .insert s now =>
    match (t.insert s now).1 with
    | .ok _ => []
    | .error _ => s.link.toList
  | op => (t.reached op).filterMap Session.link

variable {t : Table}

/-- A teardown closes the links of those who go, one after the other. -/
theorem released_tearDownAll (t : Table) (status : LinkStatus) (gone : List Session) :
    (t.tearDownAll status gone).2.released
      = (gone.filterMap Session.link).reverse ++ t.released := by
  induction gone generalizing t with
  | nil => rfl
  | cons s rest ih =>
    have hrest := ih (t.tearDown s status).2
    refine hrest.trans ?_
    show (rest.filterMap Session.link).reverse ++ (s.link.toList ++ t.released) = _
    rw [filterMap_link_cons, List.reverse_append, List.append_assoc]
    rcases s.link with _ | k
    · rfl
    · rfl

/-- A removal closes the link of the session that is found. -/
theorem released_removeWhere (t : Table) (p : Session → Bool) :
    (t.removeWhere p).2.released
      = ((t.sessions.find? p).toList.filterMap Session.link).reverse ++ t.released := by
  have hfind := t.roster.find?_eq_of_take? p
  rcases removeWhere_cases t p with ⟨hnone, heq⟩ | ⟨s, r, htake, heq⟩
  · rw [hnone] at hfind
    rw [heq, sessions, hfind]
    rfl
  · rw [htake] at hfind
    rw [heq, sessions, hfind]
    exact released_tearDownAll _ _ _

/-- **The record of closed links grows by what an operation closes.** -/
theorem released_apply (t : Table) (op : Operation) :
    (t.apply op).released = (t.closes op).reverse ++ t.released := by
  cases op with
  | insert s now =>
    -- an insert that is turned away closes one link or none, so its order does not matter
    have hone : s.link.toList.reverse = s.link.toList := by
      rcases s.link with _ | k
      · rfl
      · rfl
    rcases insert_cases t s now with ⟨-, heq⟩ | ⟨l, existing, -, -, heq⟩ | ⟨l, -, -, heq⟩
    · simp only [apply, closes, heq, hone]
      rfl
    · simp only [apply, closes, heq, hone]
      rfl
    · simp only [apply, closes, heq]
      rfl
  | remove id => exact released_removeWhere t _
  | removeLink ticket => exact released_removeWhere t _
  | updateReading id reading now =>
    rcases updateReading_cases t id reading now with heq | heq
    · simp only [apply, heq]
      rfl
    · simp only [apply, heq]
      rfl
  | reapIdle steady timeout =>
    have hgone := t.roster.takeExpired_fst steady timeout
    calc (t.apply (.reapIdle steady timeout)).released
        = ((t.roster.takeExpired steady timeout).1.filterMap Session.link).reverse
            ++ t.released := released_tearDownAll _ _ _
      _ = (t.closes (.reapIdle steady timeout)).reverse ++ t.released := by
        rw [hgone]
        rfl
  | clear => exact released_tearDownAll _ _ _
  | setRunningPort port => rfl

/-! ## What is answered of those who are taken out -/

theorem tearDownAll_fst (t : Table) (status : LinkStatus) (gone : List Session) :
    (t.tearDownAll status gone).1 = gone.map (·.ended status) := by
  induction gone generalizing t with
  | nil => rfl
  | cons s rest ih => exact congrArg (s.ended status :: ·) (ih (t.tearDown s status).2)

/-- A sweep answers the expired as timed out, in the order of the table. -/
theorem reapIdle_fst (t : Table) (steady timeout : Nat) :
    (t.reapIdle steady timeout).1
      = (t.sessions.filter (Roster.expired steady timeout)).map (·.ended .timedOut) := by
  have hgone := tearDownAll_fst { t with roster := (t.roster.takeExpired steady timeout).2 }
    .timedOut (t.roster.takeExpired steady timeout).1
  refine hgone.trans ?_
  rw [t.roster.takeExpired_fst]
  rfl

/-! ## Removal of one session -/

variable {p : Session → Bool}

theorem removeWhere_of_none (h : t.sessions.find? p = none) : t.removeWhere p = (none, t) := by
  have hfind := t.roster.find?_eq_of_take? p
  rcases removeWhere_cases t p with ⟨-, heq⟩ | ⟨s, r, htake, -⟩
  · exact heq
  · rw [htake] at hfind
    have hsome : t.sessions.find? p = some s := hfind
    rw [h] at hsome
    cases hsome

/-- **A removal takes out the first session that is found,** closes its link, gives its permit back,
and leaves everybody else where they are. -/
theorem removeWhere_of_find? {x : Session} (h : t.sessions.find? p = some x) :
    ∃ front back, t.sessions = front ++ x :: back ∧ p x = true ∧ (∀ y ∈ front, p y = false)
      ∧ t.removeWhere p = (some (x.ended .disconnected),
          { t with
            ledger := t.ledger.release x.address
            roster := { t.roster with
              sessions := front ++ back, activeCount := t.roster.activeCount - 1 }
            released := x.link.toList ++ t.released }) := by
  obtain ⟨hx, front, back, hsessions, hfront⟩ := List.find?_eq_some_iff_append.mp h
  have hfront : ∀ y ∈ front, p y = false := by simpa using hfront
  refine ⟨front, back, hsessions, hx, hfront, ?_⟩
  have hsplit : Roster.splitFirst p t.roster.sessions = some (x, front ++ back) :=
    (congrArg (Roster.splitFirst p) hsessions).trans (Roster.splitFirst_append hfront hx back)
  unfold removeWhere Roster.take?
  rw [hsplit]
  rfl

/-! ## Removal by link -/

variable {ticket : Ticket}

/-- **A removal that comes too late changes nothing.** -/
theorem removeLink_of_gone (h : ∀ x ∈ t.sessions, x.link ≠ some ticket) :
    t.removeLink ticket = (none, t) :=
  removeWhere_of_none (List.find?_eq_none.mpr (by simpa using h))

/-- **A removal that comes in time takes out the session of the link,** closes its link, gives its
permit back, and leaves everybody else where they are. -/
theorem removeLink_of_registered {x : Session} (hx : x ∈ t.sessions)
    (hlink : x.link = some ticket)
    (honly : ∀ y ∈ t.sessions, y.link = some ticket → y = x) :
    ∃ front back, t.sessions = front ++ x :: back
      ∧ (t.removeLink ticket).1 = some (x.ended .disconnected)
      ∧ (t.removeLink ticket).2 =
          { t with
            ledger := t.ledger.release x.address
            roster := { t.roster with
              sessions := front ++ back, activeCount := t.roster.activeCount - 1 }
            released := ticket :: t.released } := by
  rcases hfind : t.sessions.find? (·.link = some ticket) with _ | y
  · have hnot := List.find?_eq_none.mp hfind x hx
    simp [hlink] at hnot
  · have hylink : y.link = some ticket := by simpa using List.find?_some hfind
    obtain rfl : y = x := honly y (List.mem_of_find?_eq_some hfind) hylink
    obtain ⟨front, back, hsessions, -, -, heq⟩ := removeWhere_of_find? hfind
    have hremove : t.removeLink ticket = _ := heq
    refine ⟨front, back, hsessions, by rw [hremove], ?_⟩
    rw [hremove, hlink]
    rfl

end Table

end SensorGateway
