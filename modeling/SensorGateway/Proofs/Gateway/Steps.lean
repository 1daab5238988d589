import SensorGateway.Link.Inbound
import SensorGateway.Proofs.Session.Operations

/-!
What the steps of an inbound link do to the table.

A link calls the table twice at most. Once its node has introduced itself, the session is inserted;
once the node of a watched link is gone, that session is removed by the ticket of the link. Whatever
else a link does leaves the table and the next ticket as they are: it waits, it gives up on a node
that does not introduce itself, and it is closed when the table has let go of it or the gateway
stops.
-/

set_option autoImplicit false

namespace SensorGateway

/-- The operation that a link calls when its node is gone: a watched link removes its session. -/
def Link.parting? (l : Link) : Option Table.Operation :=
  match l.stage with
  | .watching _ ticket => some (.removeLink ticket)
  | _ => none

/-- The operation that a link calls when its node has introduced itself: it inserts the session. -/
def Link.enrolling? (l : Link) (ticket : Ticket) (now : Moment) : Option Table.Operation :=
  match l.stage with
  | .introduced record => some (.insert (Gateway.inboundSession l record ticket now) now)
  | _ => none

namespace Gateway

variable (g : Gateway) (l : Link)

@[simp] theorem table_measure (f : Metrics → Metrics) : (g.measure f).table = g.table := rfl

@[simp] theorem nextTicket_measure (f : Metrics → Metrics) :
    (g.measure f).nextTicket = g.nextTicket := rfl

/-! ## The node introduces itself -/

/-- A link that comes in is let in or turned away without an operation. -/
theorem accept_spec (peer : Net.SocketAddress) (now : Moment) :
    (g.accept peer now).2.1.table = g.table
      ∧ (g.accept peer now).2.1.nextTicket = g.nextTicket := by
  by_cases h : g.table.ledger.wouldAllow peer.host.text = true
  · simp [accept, Link.address, h]
  · simp [accept, Link.address, h]

/-- A link that is late is given up without an operation. -/
theorem expire_spec (now : Moment) :
    (g.expire l now).2.1.table = g.table ∧ (g.expire l now).2.1.nextTicket = g.nextTicket := by
  unfold expire
  split
  · exact ⟨rfl, rfl⟩
  · exact ⟨rfl, rfl⟩

/-- Reading a record asks the table nothing yet. -/
theorem introduce_spec (received : List UInt8) :
    (g.introduce l received).2.1.table = g.table
      ∧ (g.introduce l received).2.1.nextTicket = g.nextTicket := by
  unfold introduce
  split
  · exact ⟨rfl, rfl⟩
  · split
    · exact ⟨rfl, rfl⟩
    · exact ⟨rfl, rfl⟩

/-- Bytes reach the record of a link at most. -/
theorem hear_spec (chunk : List UInt8) :
    (g.hear l chunk).2.1.table = g.table ∧ (g.hear l chunk).2.1.nextTicket = g.nextTicket := by
  rcases hstage : l.stage with received | received | record | ⟨sensor, ticket⟩ | _
  · simp only [hear, hstage]
    split
    · exact ⟨rfl, rfl⟩
    · exact ⟨rfl, rfl⟩
  · simp only [hear, hstage]
    exact introduce_spec g l _
  · simp only [hear, hstage, and_self]
  · simp only [hear, hstage, and_self]
  · simp only [hear, hstage, and_self]

/-- Inserting a session is one operation of the table and takes one ticket, whatever the answer. -/
theorem enrollInbound_spec (now : Moment) :
    (g.enrollInbound l now).2.1.table = g.table.run (l.enrolling? g.nextTicket now).toList
      ∧ (g.enrollInbound l now).2.1.nextTicket
          = g.nextTicket + (l.enrolling? g.nextTicket now).toList.length := by
  rcases hstage : l.stage with received | received | record | ⟨sensor, ticket⟩ | _
  · simp [enrollInbound, Link.enrolling?, hstage]
  · simp [enrollInbound, Link.enrolling?, hstage]
  · simp only [enrollInbound, Link.enrolling?, hstage, takeTicket, Option.toList_some, Table.run,
      List.foldl_cons, List.foldl_nil, Table.apply]
    rcases g.table.insert (inboundSession l record g.nextTicket now) now with ⟨_ | _, t⟩
    · exact ⟨rfl, rfl⟩
    · exact ⟨rfl, rfl⟩
  · simp [enrollInbound, Link.enrolling?, hstage]
  · simp [enrollInbound, Link.enrolling?, hstage]

/-! ## The node is gone -/

/-- The link of a node that is gone is closed, and its session is removed if it is there. -/
theorem leave_spec (sensor : SensorId) (ticket : Ticket) :
    (g.leave l sensor ticket).1 = l.closed
      ∧ (g.leave l sensor ticket).2.1.table = (g.table.removeLink ticket).2
      ∧ (g.leave l sensor ticket).2.1.nextTicket = g.nextTicket := by
  unfold leave
  -- the log tells a session that was found from one that had left before; the link is closed either
  -- way
  rcases Table.removeWhere_cases g.table (·.link = some ticket) with ⟨-, heq⟩ | ⟨x, r, -, heq⟩
  · have hremove : g.table.removeLink ticket = (none, g.table) := heq
    rw [hremove]
    exact ⟨rfl, rfl, rfl⟩
  · have hremove : g.table.removeLink ticket = _ := heq
    rw [hremove]
    exact ⟨rfl, rfl, rfl⟩

/-- **A node that hangs up has its session removed,** if its link was watched. -/
theorem hangUp_spec :
    (g.hangUp l).2.1.table = g.table.run l.parting?.toList
      ∧ (g.hangUp l).2.1.nextTicket = g.nextTicket := by
  rcases hstage : l.stage with received | received | record | ⟨sensor, ticket⟩ | _
  · simp [hangUp, Link.parting?, hstage, refuse]
  · simp [hangUp, Link.parting?, hstage, refuse]
  · simp [hangUp, Link.parting?, hstage]
  · simp only [hangUp, Link.parting?, hstage]
    exact (leave_spec g l sensor ticket).2
  · simp [hangUp, Link.parting?, hstage]

/-- A socket that fails is told to the log, and otherwise it is as if the node had hung up. -/
theorem breakDown_spec (fault : OsFault) :
    (g.breakDown l fault).2.1.table = (g.hangUp l).2.1.table
      ∧ (g.breakDown l fault).2.1.nextTicket = (g.hangUp l).2.1.nextTicket
      ∧ (g.breakDown l fault).1 = (g.hangUp l).1 := by
  rcases hstage : l.stage with received | received | record | ⟨sensor, ticket⟩ | _
  · simp [breakDown, hangUp, hstage, refuse]
  · simp [breakDown, hangUp, hstage, refuse]
  · simp [breakDown, hangUp, hstage]
  · simp [breakDown, hangUp, hstage]
  · simp [breakDown, hangUp, hstage]

/-! ## The gateway is done with the link -/

/-- Closing a link that the gateway is done with is no operation: its session is gone already. -/
theorem attend_spec :
    (g.attend l).2.1.table = g.table ∧ (g.attend l).2.1.nextTicket = g.nextTicket := by
  unfold attend
  split
  · split
    · exact ⟨rfl, rfl⟩
    · exact ⟨rfl, rfl⟩
  · exact ⟨rfl, rfl⟩

end Gateway

end SensorGateway
