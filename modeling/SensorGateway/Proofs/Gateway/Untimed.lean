import SensorGateway.Link.Inbound
import SensorGateway.Proofs.Session.Operations

/-!
The gateway without its clock readings.

A session keeps what the clocks showed when it was admitted and when it was last heard of. Nothing
in an insert depends on that: two sessions that differ in clock readings alone get the same answer,
and the tables that they leave differ in clock readings alone. The same holds of the steps that a
link takes from its record on.
-/

set_option autoImplicit false

namespace SensorGateway

def Reading.untimed (r : Reading) : Reading := { r with timestamp := 0 }

/-- **A session with its clock readings blotted out.** -/
def Session.untimed (s : Session) : Session :=
  { s with connectedAt := 0, lastActive := 0, lastSeen := 0, latest := s.latest.untimed }

namespace Table

/-- **A table with the clock readings of its sessions blotted out.** -/
def untimed (t : Table) : Table :=
  { t with roster := { t.roster with sessions := t.roster.sessions.map Session.untimed } }

/-- An operation with the clock readings that it is given blotted out. -/
def Operation.untimed : Operation → Operation
  | insert s _ => insert s.untimed ⟨0, 0⟩
  | updateReading id reading _ => updateReading id reading.untimed ⟨0, 0⟩
  | reapIdle _ timeout => reapIdle 0 timeout
  | op => op

/-- What an admitted session is given besides its clock readings is the same for both. -/
theorem untimed_numbered (r : Roster) (policy : IdPolicy) {s s' : Session}
    (h : s.untimed = s'.untimed) (now now' : Moment) :
    (r.numbered policy s now).untimed = (r.numbered policy s' now').untimed := by
  have hnumbered : ∀ x now, (r.numbered policy x now).untimed
      = { x.untimed with
          sensor := r.assignedId policy
          slot := r.activeCount
          latest := (Reading.initial (r.assignedId policy) 0).untimed } := fun _ _ => rfl
  rw [hnumbered, hnumbered, h]

/-- **An insert does not look at clocks.** -/
theorem untimed_insert (t : Table) {s s' : Session} (h : s.untimed = s'.untimed)
    (now now' : Moment) :
    (t.insert s now).1 = (t.insert s' now').1
      ∧ (t.insert s now).2.untimed = (t.insert s' now').2.untimed := by
  have haddress : s.address = s'.address := show s.untimed.address = s'.untimed.address by rw [h]
  have hport : s.port = s'.port := show s.untimed.port = s'.untimed.port by rw [h]
  have hlink : s.link = s'.link := show s.untimed.link = s'.untimed.link by rw [h]
  unfold insert permit?
  rw [haddress]
  rcases t.ledger.allow? s'.address with _ | l
  · simp only [letGo, hlink, and_self]
  · simp only [enter, hport]
    rcases t.roster.connectedOnPort? s'.port with _ | existing
    · refine ⟨rfl, ?_⟩
      simp only [untimed, Roster.sessions_push, List.map_cons,
        untimed_numbered t.roster t.policy h now now']
      rfl
    · simp only [letGo, giveBack, hlink, and_self]

end Table

namespace Gateway

/-- **A gateway with the clock readings of its sessions blotted out.** -/
def untimed (g : Gateway) : Gateway := { g with table := g.table.untimed }

variable {g g' : Gateway} {l l' : Link}

/-- The session of a link depends on the far host, and not on when or from which port it came. -/
theorem untimed_inboundSession (haddress : l.address = l'.address) (hsecure : l.secure = l'.secure)
    (record : Handshake.Record) (ticket : Ticket) (now now' : Moment) :
    (inboundSession l record ticket now).untimed
      = (inboundSession l' record ticket now').untimed := by
  unfold inboundSession
  rw [haddress, hsecure]
  rfl

/-- **Enrolling a link does not look at clocks.** -/
theorem untimed_enrollInbound (g : Gateway) (haddress : l.address = l'.address)
    (hsecure : l.secure = l'.secure) (record : Handshake.Record) (now now' : Moment) :
    let enrolled := g.enrollInbound { l with stage := .introduced record } now
    let enrolled' := g.enrollInbound { l' with stage := .introduced record } now'
    enrolled.1.stage = enrolled'.1.stage ∧ enrolled.2.1.untimed = enrolled'.2.1.untimed := by
  intro enrolled enrolled'
  have hmoved : ∀ k : Link, inboundSession { k with stage := .introduced record } record
      = inboundSession k record := fun _ => rfl
  have hsession := untimed_inboundSession haddress hsecure record g.nextTicket now now'
  obtain ⟨hanswer, htable⟩ := g.table.untimed_insert hsession now now'
  simp only [enrolled, enrolled', enrollInbound, takeTicket, hmoved]
  rcases hinsert : g.table.insert (inboundSession l record g.nextTicket now) now with ⟨answer, t⟩
  rcases hinsert' : g.table.insert (inboundSession l' record g.nextTicket now') now'
    with ⟨answer', t'⟩
  rw [hinsert, hinsert'] at hanswer htable
  have hcount : t.activeCount = t'.activeCount :=
    show t.untimed.activeCount = t'.untimed.activeCount by rw [htable]
  cases hanswer
  rcases answer with e | id
  · refine ⟨rfl, ?_⟩
    simp only [untimed, measure, htable]
  · refine ⟨rfl, ?_⟩
    simp only [untimed, measure, htable, hcount]

/-- Looking after a link does not either. -/
theorem untimed_attend (hg : g.untimed = g'.untimed) (hl : l.stage = l'.stage) :
    (g.attend l).1.stage = (g'.attend l').1.stage
      ∧ (g.attend l).2.1.untimed = (g'.attend l').2.1.untimed := by
  have hstopped : g.stopped = g'.stopped :=
    show g.untimed.stopped = g'.untimed.stopped by rw [hg]
  have hreleased : g.table.released = g'.table.released :=
    show g.untimed.table.released = g'.untimed.table.released by rw [hg]
  -- the metrics show how many sessions there are, which is no clock reading
  have hshown : g.showActive.untimed = g'.showActive.untimed :=
    show g.untimed.showActive = g'.untimed.showActive by rw [hg]
  unfold attend
  rw [hl, hstopped, hreleased]
  rcases hstage : l'.stage with received | received | record | ⟨sensor, ticket⟩ | _
  · exact ⟨hl, hg⟩
  · exact ⟨hl, hg⟩
  · exact ⟨hl, hg⟩
  · by_cases hdone : (g'.stopped || g'.table.released.contains ticket) = true
    · simp only [if_pos hdone]
      exact ⟨rfl, hshown⟩
    · simp only [if_neg hdone]
      exact ⟨hl, hg⟩
  · exact ⟨hl, hg⟩

end Gateway

end SensorGateway
