import SensorGateway.Proofs.Gateway.Steps

/-!
Visits.

A `Visit` is a link with the gateway that serves it, from the moment the link comes in, while
nothing else touches the gateway. The node sends bytes in pieces of any size, leaves, or lets time
pass, and the gateway looks at one such arrival after another.

A visit records the operations of the table that it calls, and the record is true
(`Recorded.follow`). Nothing happens any more once the link is closed (`follow_ended`). While it is
watched nothing that the node sends has an effect (`follow_settled`), and its leaving has one
(`follow_departed`).
-/

set_option autoImplicit false

namespace SensorGateway

/-! ## Arrivals and visits -/

/-- What the gateway can see of a node when it looks. -/
inductive Arrival where
  | bytes (chunk : List UInt8)
  /-- Nothing has come, and time has passed. -/
  | quiet
  | eof
  | fault (fault : OsFault)

namespace Arrival

/-- The bytes that have come. -/
def sent : Arrival → List UInt8
  | bytes chunk => chunk
  | _ => []

/-- Whether the node is gone. -/
def departs : Arrival → Bool
  | eof => true
  | fault _ => true
  | _ => false

/-- The step that a link takes. -/
def notice (a : Arrival) (g : Gateway) (l : Link) : Gateway.LinkStep :=
  match a with
  | bytes chunk => g.hear l chunk
  | quiet => (l, g, [])
  | eof => g.hangUp l
  | fault f => g.breakDown l f

end Arrival

/-- Whether an operation of the table is an insert. -/
def Table.Operation.isInsert : Table.Operation → Bool
  | .insert .. => true
  | _ => false

theorem countP_parting (l : Link) : l.parting?.toList.countP Table.Operation.isInsert = 0 := by
  unfold Link.parting?
  split
  · rfl
  · rfl

theorem countP_enrolling (l : Link) (ticket : Ticket) (now : Moment) :
    (l.enrolling? ticket now).toList.countP Table.Operation.isInsert
      = (l.enrolling? ticket now).toList.length := by
  unfold Link.enrolling?
  split
  · rfl
  · rfl

/-- **A link with the gateway that serves it.** -/
structure Visit where
  link : Link
  gateway : Gateway
  /-- The operations of the table that were called for the link, the first one first. -/
  calls : List Table.Operation := []

namespace Visit

/-- A step of the link's task, and the operation that it calls. -/
def step (v : Visit) (call? : Option Table.Operation)
    (f : Gateway → Link → Gateway.LinkStep) : Visit where
  link := (f v.gateway v.link).1
  gateway := (f v.gateway v.link).2.1
  calls := v.calls ++ call?.toList

def expire (v : Visit) (now : Moment) : Visit := v.step none (·.expire · now)

def notice (v : Visit) (a : Arrival) : Visit :=
  v.step (if a.departs then v.link.parting? else none) a.notice

def enroll (v : Visit) (now : Moment) : Visit :=
  v.step (v.link.enrolling? v.gateway.nextTicket now) (·.enrollInbound · now)

def attend (v : Visit) : Visit := v.step none Gateway.attend

/-- **What one arrival leads to:** first the node's time is looked at, then what has come. A session
that is due is inserted, and a watched link is looked after. -/
def turn (v : Visit) (x : Moment × Arrival) : Visit :=
  (((v.expire x.1).notice x.2).enroll x.1).attend

/-- **What arrivals lead to,** the first one first. -/
def follow (v : Visit) (arrivals : List (Moment × Arrival)) : Visit := arrivals.foldl turn v

/-- A link has come in. -/
def receive (g : Gateway) (peer : Net.SocketAddress) (start : Moment) : Visit where
  link := (g.accept peer start).1
  gateway := (g.accept peer start).2.1

theorem follow_append (v : Visit) (before after : List (Moment × Arrival)) :
    v.follow (before ++ after) = (v.follow before).follow after := List.foldl_append

/-! ## The record of calls -/

/-- **The record of calls is true:** they are what was done to the table, and every insert among
them took a ticket. -/
structure Recorded (g : Gateway) (v : Visit) : Prop where
  table : v.gateway.table = g.table.run v.calls
  nextTicket : v.gateway.nextTicket = g.nextTicket + v.calls.countP Table.Operation.isInsert

variable {g : Gateway} {v : Visit}

/-- A step keeps the record true if it calls what it does. -/
theorem Recorded.step (h : v.Recorded g) {call? : Option Table.Operation}
    {f : Gateway → Link → Gateway.LinkStep}
    (htable : (f v.gateway v.link).2.1.table = v.gateway.table.run call?.toList)
    (hnext : (f v.gateway v.link).2.1.nextTicket
      = v.gateway.nextTicket + call?.toList.countP Table.Operation.isInsert) :
    (v.step call? f).Recorded g where
  table := by
    show (f v.gateway v.link).2.1.table = g.table.run (v.calls ++ call?.toList)
    rw [htable, h.table, Table.run, Table.run, Table.run, List.foldl_append]
  nextTicket := by
    show (f v.gateway v.link).2.1.nextTicket
      = _ + (v.calls ++ call?.toList).countP Table.Operation.isInsert
    rw [hnext, h.nextTicket, List.countP_append, Nat.add_assoc]

/-- Whatever the gateway sees of a node, at most a removal is called. -/
theorem Recorded.notice (h : v.Recorded g) (a : Arrival) : (v.notice a).Recorded g := by
  cases a with
  | bytes chunk =>
    have hspec := v.gateway.hear_spec v.link chunk
    exact h.step hspec.1 hspec.2
  | quiet => exact h.step rfl rfl
  | eof =>
    have hspec := v.gateway.hangUp_spec v.link
    refine h.step hspec.1 ?_
    show _ = _ + v.link.parting?.toList.countP Table.Operation.isInsert
    rw [countP_parting]
    exact hspec.2
  | fault f =>
    have hspec := v.gateway.hangUp_spec v.link
    obtain ⟨htable, hnext, -⟩ := v.gateway.breakDown_spec v.link f
    refine h.step (htable.trans hspec.1) ?_
    show _ = _ + v.link.parting?.toList.countP Table.Operation.isInsert
    rw [countP_parting]
    exact hnext.trans hspec.2

theorem Recorded.enroll (h : v.Recorded g) (now : Moment) : (v.enroll now).Recorded g := by
  have hspec := v.gateway.enrollInbound_spec v.link now
  refine h.step hspec.1 ?_
  rw [countP_enrolling]
  exact hspec.2

/-- The four steps of an arrival keep the record true. -/
theorem Recorded.turn (h : v.Recorded g) (x : Moment × Arrival) : (v.turn x).Recorded g := by
  have hexpire := v.gateway.expire_spec v.link x.1
  have hexpired : (v.expire x.1).Recorded g := h.step hexpire.1 hexpire.2
  -- of the four steps only the middle two call an operation
  have hdue := (hexpired.notice x.2).enroll x.1
  have hattend := Gateway.attend_spec (((v.expire x.1).notice x.2).enroll x.1).gateway
    (((v.expire x.1).notice x.2).enroll x.1).link
  exact hdue.step hattend.1 hattend.2

/-- **So the record is true after any arrivals.** -/
theorem Recorded.follow (h : v.Recorded g) (arrivals : List (Moment × Arrival)) :
    (v.follow arrivals).Recorded g := by
  induction arrivals generalizing v with
  | nil => exact h
  | cons x rest ih => exact ih (h.turn x)

theorem recorded_receive (g : Gateway) (peer : Net.SocketAddress) (start : Moment) :
    (receive g peer start).Recorded g := by
  have haccept := g.accept_spec peer start
  exact ⟨haccept.1, haccept.2⟩

/-! ## A link that is closed -/

variable {x : Moment × Arrival} {arrivals : List (Moment × Arrival)}

/-- A link that is closed is not late. -/
theorem expire_ended (h : v.link.stage = .ended) (now : Moment) : v.expire now = v := by
  simp [expire, step, Gateway.expire, Gateway.isLate, h]

/-- What its node sends is not heard. -/
theorem notice_ended (h : v.link.stage = .ended) (a : Arrival) : v.notice a = v := by
  cases a <;>
    simp [notice, Arrival.notice, Arrival.departs, step, Link.parting?, Gateway.hear,
      Gateway.hangUp, Gateway.breakDown, h]

/-- Its session is not inserted. -/
theorem enroll_ended (h : v.link.stage = .ended) (now : Moment) : v.enroll now = v := by
  simp [enroll, step, Link.enrolling?, Gateway.enrollInbound, h]

/-- It needs no looking after. -/
theorem attend_ended (h : v.link.stage = .ended) : v.attend = v := by
  simp [attend, step, Gateway.attend, h]

/-- **Nothing happens any more once a link is closed.** -/
theorem follow_ended (h : v.link.stage = .ended) (arrivals : List (Moment × Arrival)) :
    v.follow arrivals = v := by
  induction arrivals with
  | nil => rfl
  | cons x rest ih =>
    have hturn : v.turn x = v := by
      rw [turn, expire_ended h, notice_ended h, enroll_ended h, attend_ended h]
    show (v.turn x).follow rest = v
    rw [hturn]
    exact ih

/-! ## A link that is watched -/

/-- A link that was looked after has no more to do until its node leaves. -/
structure Settled (v : Visit) : Prop where
  attended : v.attend = v
  stage : v.link.stage = .ended ∨ ∃ sensor ticket, v.link.stage = .watching sensor ticket

/-- A closed link is settled. -/
theorem settled_of_ended (h : v.link.stage = .ended) : v.Settled := ⟨attend_ended h, .inl h⟩

/-- A look at a watched link closes it, or finds nothing to do. -/
theorem attend_watching {sensor : SensorId} {ticket : Ticket}
    (h : v.link.stage = .watching sensor ticket) :
    if v.gateway.stopped || v.gateway.table.released.contains ticket then
      v.attend.link.stage = .ended ∧ v.attend.calls = v.calls
    else v.attend = v := by
  by_cases hdone : (v.gateway.stopped || v.gateway.table.released.contains ticket) = true
  · rw [if_pos hdone]
    simp only [attend, step, Gateway.attend, h, if_pos hdone]
    exact ⟨rfl, List.append_nil _⟩
  · rw [if_neg hdone]
    simp only [attend, step, Gateway.attend, h, if_neg hdone, Option.toList_none, List.append_nil]

/-- A watched link is settled by a look at it. -/
theorem settled_attend {sensor : SensorId} {ticket : Ticket}
    (h : v.link.stage = .watching sensor ticket) : v.attend.Settled := by
  have hattend := attend_watching h
  split at hattend
  · exact settled_of_ended hattend.1
  · rw [hattend]
    exact ⟨hattend, .inr ⟨sensor, ticket, h⟩⟩

/-- The time of a node is over only before it has introduced itself. -/
theorem expire_watching {sensor : SensorId} {ticket : Ticket}
    (h : v.link.stage = .watching sensor ticket) (now : Moment) : v.expire now = v := by
  simp [expire, step, Gateway.expire, Gateway.isLate, h]

/-- **Nothing that a node sends changes a settled visit.** -/
theorem Settled.turn (h : v.Settled) (hx : x.2.departs = false) : v.turn x = v := by
  rcases h.stage with hended | ⟨sensor, ticket, hstage⟩
  · rw [Visit.turn, expire_ended hended, notice_ended hended, enroll_ended hended, h.attended]
  · -- a watched link reads nothing more, so only a departure would be noticed
    have hnotice : v.notice x.2 = v := by
      rcases x with ⟨now, chunk | _ | _ | fault⟩
      · simp [Visit.notice, Arrival.notice, Arrival.departs, Visit.step, Gateway.hear, hstage]
      · simp [Visit.notice, Arrival.notice, Arrival.departs, Visit.step]
      · cases hx
      · cases hx
    have henroll : v.enroll x.1 = v := by
      simp [Visit.enroll, Visit.step, Link.enrolling?, Gateway.enrollInbound, hstage]
    rw [Visit.turn, expire_watching hstage, hnotice, henroll, h.attended]

/-- **As long as the node stays, a settled visit stays as it is.** -/
theorem follow_settled (h : v.Settled) (hhere : arrivals.any (·.2.departs) = false) :
    v.follow arrivals = v := by
  induction arrivals with
  | nil => rfl
  | cons x rest ih =>
    obtain ⟨hx, hrest⟩ : x.2.departs = false ∧ rest.any (·.2.departs) = false := by
      rwa [List.any_cons, Bool.or_eq_false_iff] at hhere
    show (v.turn x).follow rest = v
    rw [h.turn hx]
    exact ih hrest

/-- The node of a watched link leaves: its session is removed by the ticket, and that is all. -/
theorem turn_departed {sensor : SensorId} {ticket : Ticket}
    (hstage : v.link.stage = .watching sensor ticket) (hx : x.2.departs = true) :
    (v.turn x).link.stage = .ended ∧ (v.turn x).calls = v.calls ++ [.removeLink ticket] := by
  have hnotice : (v.notice x.2).link.stage = .ended
      ∧ (v.notice x.2).calls = v.calls ++ [.removeLink ticket] := by
    have hparting : v.link.parting? = some (.removeLink ticket) := by
      simp only [Link.parting?, hstage]
    -- the session may be gone already; the link is closed all the same
    have hgone : (v.gateway.hangUp v.link).1 = v.link.closed := by
      simp only [Gateway.hangUp, hstage]
      exact (v.gateway.leave_spec v.link sensor ticket).1
    rcases x with ⟨now, chunk | _ | _ | fault⟩
    · cases hx
    · cases hx
    · refine ⟨congrArg Link.stage hgone, ?_⟩
      show v.calls ++ v.link.parting?.toList = _
      rw [hparting, Option.toList_some]
    · refine ⟨?_, ?_⟩
      · show (v.gateway.breakDown v.link fault).1.stage = _
        rw [(v.gateway.breakDown_spec v.link fault).2.2, hgone]
        rfl
      · show v.calls ++ v.link.parting?.toList = _
        rw [hparting, Option.toList_some]
  rw [Visit.turn, expire_watching hstage, enroll_ended hnotice.1, attend_ended hnotice.1]
  exact hnotice

/-- **Once the node of a watched link has left, its session has been removed, once.** -/
theorem follow_departed (h : v.Settled) {sensor : SensorId} {ticket : Ticket}
    (hstage : v.link.stage = .watching sensor ticket)
    (hany : arrivals.any (·.2.departs) = true) :
    (v.follow arrivals).link.stage = .ended
      ∧ (v.follow arrivals).calls = v.calls ++ [.removeLink ticket] := by
  induction arrivals with
  | nil => cases hany
  | cons x rest ih =>
    show ((v.turn x).follow rest).link.stage = .ended
      ∧ ((v.turn x).follow rest).calls = v.calls ++ [.removeLink ticket]
    by_cases hx : x.2.departs = true
    · -- the first departure closes the link, so that later ones are not noticed
      have hturn := turn_departed hstage hx
      rw [follow_ended hturn.1]
      exact hturn
    · rw [h.turn (by simpa using hx)]
      refine ih ?_
      simpa [hx] using hany

end Visit

end SensorGateway
