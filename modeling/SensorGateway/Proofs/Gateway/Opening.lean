import SensorGateway.Proofs.Gateway.Untimed
import SensorGateway.Proofs.Gateway.Visit

/-!
What becomes of an inbound link.

`first_bytes_decide` says that only the first 24 bytes of a link matter. Before anything is read, a
node whose address is at its limit is turned away. A node that leaves, fails or is late before it
has sent 24 bytes is turned away, and so is one whose 24 bytes are no record. For all others the
table is asked once, and its answer decides. How the bytes were cut, which bytes came after them,
and when all this happened leave no trace but in the clock readings of the new session.

The argument follows the bytes, not the pieces. As long as fewer than 24 have come, a visit is a
function of the bytes that have come (`follow_waiting`). One arrival completes them
(`exists_crossing`), and whatever comes later finds the visit settled.
-/

set_option autoImplicit false

namespace SensorGateway

/-! ## What is sent in time -/

/-- Whether an arrival lets a node go on introducing itself: it is not gone, nor is it late. -/
def inTime (deadline : Option Nat) (x : Moment × Arrival) : Bool :=
  !x.2.departs && deadline.all (x.1.steady < ·)

theorem departs_of_inTime {deadline : Option Nat} {x : Moment × Arrival}
    (h : inTime deadline x = true) : x.2.departs = false := by
  have hboth : x.2.departs = false ∧ deadline.all (x.1.steady < ·) = true := by
    simpa [inTime] using h
  exact hboth.1

/-- The bytes of some arrivals, in one piece. -/
def chunks (arrivals : List (Moment × Arrival)) : List UInt8 := arrivals.flatMap (·.2.sent)

/-- **The bytes that a node sends in time.** -/
def opening (deadline : Option Nat) (arrivals : List (Moment × Arrival)) : List UInt8 :=
  chunks (arrivals.takeWhile (inTime deadline))

namespace Visit

/-! ## A link that waits for its record -/

variable {g : Gateway} {l : Link} {heard : List UInt8} {x : Moment × Arrival}
  {arrivals : List (Moment × Arrival)}

/-- A link of whose record some bytes have come. -/
def waiting (l : Link) (g : Gateway) (heard : List UInt8) : Visit :=
  ⟨{ l with stage := .greeting heard }, g, []⟩

/-- A link whose node did not introduce itself. -/
def turnedAway (l : Link) (g : Gateway) : Visit := ⟨l.closed, g.measure (·.reject "handshake"), []⟩

/-- A link whose node has introduced itself, after the table was asked. -/
def answered (l : Link) (g : Gateway) (record : Handshake.Record) (now : Moment) : Visit :=
  (Visit.enroll ⟨{ l with stage := .introduced record }, g, []⟩ now).attend

/-- A link that waits is late once its time is over, and never without a limit. -/
theorem isLate_waiting (l : Link) (heard : List UInt8) (now : Moment) :
    Gateway.isLate { l with stage := .greeting heard } now
      = !l.deadline.all (now.steady < ·) := by
  rcases hdeadline : l.deadline with _ | limit
  · simp [Gateway.isLate]
  · have hnot : decide (limit ≤ now.steady) = !decide (now.steady < limit) := by
      rw [← decide_not]
      exact decide_eq_decide.mpr Nat.not_lt.symm
    simpa [Gateway.isLate] using hnot

/-- A node that leaves or is late is turned away. -/
theorem turn_waiting_of_not_inTime (hx : inTime l.deadline x = false) :
    (waiting l g heard).turn x = turnedAway l g := by
  have hended : (turnedAway l g).link.stage = .ended := rfl
  have hlate := isLate_waiting l heard x.1
  -- the time is looked at first, so that a node that is late is not asked whether it is gone
  by_cases hdeadline : l.deadline.all (x.1.steady < ·) = true
  · have hdeparts : x.2.departs = true := by
      simpa [inTime, hdeadline] using hx
    have hexpire : (waiting l g heard).expire x.1 = waiting l g heard := by
      simp [expire, step, waiting, Gateway.expire, hlate, hdeadline]
    have hnotice : (waiting l g heard).notice x.2 = turnedAway l g := by
      rcases x with ⟨now, _ | _ | _ | fault⟩
      · cases hdeparts
      · cases hdeparts
      · rfl
      · rfl
    rw [turn, hexpire, hnotice, enroll_ended hended, attend_ended hended]
  · have hexpire : (waiting l g heard).expire x.1 = turnedAway l g := by
      simp [expire, step, waiting, turnedAway, Gateway.expire, Gateway.refuse, hlate, hdeadline,
        Link.closed]
    rw [turn, hexpire, notice_ended hended, enroll_ended hended, attend_ended hended]

/-- What a node sends in time is added to what it has sent, and read if there is enough of it. -/
theorem turn_waiting (hx : inTime l.deadline x = true)
    (hheard : heard.length < Handshake.recordSize) :
    (waiting l g heard).turn x
      = (Visit.enroll ⟨(g.introduce l (heard ++ x.2.sent)).1,
          (g.introduce l (heard ++ x.2.sent)).2.1, []⟩ x.1).attend := by
  obtain ⟨hdeparts, hdeadline⟩ : x.2.departs = false ∧ l.deadline.all (x.1.steady < ·) = true := by
    simpa [inTime] using hx
  have hlate := isLate_waiting l heard x.1
  have hexpire : (waiting l g heard).expire x.1 = waiting l g heard := by
    simp [expire, step, waiting, Gateway.expire, hlate, hdeadline]
  have hnotice : (waiting l g heard).notice x.2
      = ⟨(g.introduce l (heard ++ x.2.sent)).1, (g.introduce l (heard ++ x.2.sent)).2.1, []⟩ := by
    rcases x with ⟨now, chunk | _ | _ | fault⟩
    · rfl
    · -- when nothing has come, nothing is read, and there was not enough to read before
      have hshort : (heard ++ Arrival.quiet.sent).length < Handshake.recordSize := by
        simpa [Arrival.sent] using hheard
      rw [Gateway.introduce, if_pos hshort]
      simp [notice, Arrival.notice, Arrival.departs, Arrival.sent, step, waiting]
    · cases hdeparts
    · cases hdeparts
  rw [turn, hexpire, hnotice]

/-! ## The bytes of a record -/

@[simp] theorem chunks_nil : chunks [] = [] := rfl

@[simp] theorem chunks_cons (x : Moment × Arrival) (rest : List (Moment × Arrival)) :
    chunks (x :: rest) = x.2.sent ++ chunks rest := rfl

/-- Before there are enough bytes for a record, a link waits, and has what has come so far. -/
theorem follow_waiting (hall : ∀ x ∈ arrivals, inTime l.deadline x = true)
    (hshort : (heard ++ chunks arrivals).length < Handshake.recordSize) :
    (waiting l g heard).follow arrivals = waiting l g (heard ++ chunks arrivals) := by
  -- one piece at a time, with what has been heard growing by it
  induction arrivals generalizing heard with
  | nil => simp [follow]
  | cons x rest ih =>
    rw [chunks_cons, ← List.append_assoc] at hshort ⊢
    have hfirst : (heard ++ x.2.sent).length < Handshake.recordSize := by
      rw [List.length_append] at hshort
      omega
    have hheard : heard.length < Handshake.recordSize := by
      rw [List.length_append] at hfirst
      omega
    have hturn : (waiting l g heard).turn x = waiting l g (heard ++ x.2.sent) := by
      rw [turn_waiting (hall x List.mem_cons_self) hheard, Gateway.introduce, if_pos hfirst]
      simp [enroll, attend, step, Link.enrolling?, Gateway.enrollInbound, Gateway.attend, waiting]
    show ((waiting l g heard).turn x).follow rest = _
    rw [hturn]
    exact ih (fun y hy => hall y (List.mem_cons_of_mem _ hy)) hshort

/-- Among arrivals that bring enough bytes in time, one completes the record. -/
theorem exists_crossing {deadline : Option Nat} (heard : List UInt8)
    (hheard : heard.length < Handshake.recordSize)
    (henough : Handshake.recordSize ≤ (heard ++ opening deadline arrivals).length) :
    ∃ before x after, arrivals = before ++ x :: after
      ∧ (∀ y ∈ before, inTime deadline y = true) ∧ inTime deadline x = true
      ∧ (heard ++ chunks before).length < Handshake.recordSize
      ∧ Handshake.recordSize ≤ (heard ++ chunks before ++ x.2.sent).length
      ∧ opening deadline arrivals = chunks before ++ x.2.sent ++ opening deadline after := by
  induction arrivals generalizing heard with
  | nil =>
    rw [opening, List.takeWhile_nil, chunks_nil, List.append_nil] at henough
    omega
  | cons x rest ih =>
    by_cases hx : inTime deadline x = true
    · have hopening : opening deadline (x :: rest) = x.2.sent ++ opening deadline rest := by
        rw [opening, List.takeWhile_cons_of_pos hx, chunks_cons]
        rfl
      -- either what comes now completes the record, or the rest does, with more heard before it
      by_cases hfirst : (heard ++ x.2.sent).length < Handshake.recordSize
      · rw [hopening, ← List.append_assoc] at henough
        obtain ⟨before, y, after, hrest, hbefore, hy, hshort, hlong, hall⟩ := ih _ hfirst henough
        refine ⟨x :: before, y, after, ?_, ?_, hy, ?_, ?_, ?_⟩
        · rw [hrest, List.cons_append]
        · exact List.forall_mem_cons.mpr ⟨hx, hbefore⟩
        · rw [chunks_cons, ← List.append_assoc]
          exact hshort
        · rw [chunks_cons, ← List.append_assoc]
          exact hlong
        · rw [hopening, hall, chunks_cons]
          simp only [List.append_assoc]
      · refine ⟨[], x, rest, rfl, by simp, hx, ?_, ?_, ?_⟩
        · rw [chunks_nil, List.append_nil]
          exact hheard
        · rw [chunks_nil, List.append_nil]
          exact Nat.le_of_not_lt hfirst
        · rw [hopening, chunks_nil, List.nil_append]
    · rw [opening, List.takeWhile_cons_of_neg hx, chunks_nil, List.append_nil] at henough
      omega

/-- A node that leaves, or whose time is over, before it has sent enough is turned away. -/
theorem follow_of_short (hshort : (opening l.deadline arrivals).length < Handshake.recordSize) :
    (waiting l g []).follow arrivals
      = if arrivals.all (inTime l.deadline) then waiting l g (opening l.deadline arrivals)
        else turnedAway l g := by
  have hwaits : (waiting l g []).follow (arrivals.takeWhile (inTime l.deadline))
      = waiting l g (opening l.deadline arrivals) :=
    follow_waiting (List.all_eq_true.mp List.all_takeWhile) hshort
  have hsplit := List.takeWhile_append_dropWhile (p := inTime l.deadline) (l := arrivals)
  rcases hrest : arrivals.dropWhile (inTime l.deadline) with _ | ⟨x, after⟩
  · rw [hrest, List.append_nil] at hsplit
    have hall : arrivals.all (inTime l.deadline) = true := by
      rw [← hsplit]
      exact List.all_takeWhile
    rw [if_pos hall, ← hwaits, hsplit]
  · -- the first arrival that is not in time finds a link that waits, and closes it
    have hx : inTime l.deadline x = false := by
      have hhead := List.head?_dropWhile_not (inTime l.deadline) arrivals
      rw [hrest] at hhead
      simpa using hhead
    have hall : ¬ arrivals.all (inTime l.deadline) = true := by
      intro hall
      have hmem : x ∈ arrivals := by
        rw [← hsplit, hrest]
        exact List.mem_append_right _ List.mem_cons_self
      rw [List.all_eq_true.mp hall x hmem] at hx
      cases hx
    rw [if_neg hall]
    calc (waiting l g []).follow arrivals
        = ((waiting l g (opening l.deadline arrivals)).turn x).follow after := by
          rw [← hwaits]
          conv => lhs; rw [← hsplit, hrest, follow_append]
          rfl
      _ = turnedAway l g := by
          rw [turn_waiting_of_not_inTime hx]
          exact follow_ended rfl after

/-- **One arrival completes the record,** and the first bytes are read then. Nobody has left before.
-/
theorem follow_of_enough (henough : Handshake.recordSize ≤ (opening l.deadline arrivals).length) :
    ∃ x after, x ∈ arrivals ∧ arrivals.any (·.2.departs) = after.any (·.2.departs)
      ∧ (waiting l g []).follow arrivals
        = match Handshake.Record.decode
              ((opening l.deadline arrivals).take Handshake.recordSize) with
          | .error _ => turnedAway l g
          | .ok record => (answered l g record x.1).follow after := by
  obtain ⟨before, x, after, hsplit, hbefore, hx, hshort, hlong, hopening⟩ :=
    exists_crossing [] (by decide) henough
  rw [List.nil_append] at hshort hlong
  have hmem : x ∈ arrivals := hsplit ▸ List.mem_append_right _ List.mem_cons_self
  have hstays : (before ++ [x]).any (·.2.departs) = false := by
    rw [List.any_eq_false]
    intro y hy
    have hy' : inTime l.deadline y = true := by
      rcases List.mem_append.mp hy with hold | hnew
      · exact hbefore y hold
      · rw [List.mem_singleton.mp hnew]
        exact hx
    simp [departs_of_inTime hy']
  -- bytes that come with the end of the record or behind it are cut off
  have hfirst : (opening l.deadline arrivals).take Handshake.recordSize
      = (chunks before ++ x.2.sent).take Handshake.recordSize := by
    rw [hopening, List.take_append_of_le_length hlong]
  have hturn := turn_waiting (g := g) hx hshort
  rw [Gateway.introduce, if_neg (Nat.not_lt.mpr hlong), ← hfirst] at hturn
  have hfollow : (waiting l g []).follow arrivals
      = ((waiting l g (chunks before)).turn x).follow after := by
    rw [hsplit, follow_append, follow_waiting hbefore hshort]
    rfl
  refine ⟨x, after, hmem, ?_, ?_⟩
  · rw [hsplit, List.append_cons, List.any_append, hstays, Bool.false_or]
  · rw [hfollow, hturn]
    rcases Handshake.Record.decode ((opening l.deadline arrivals).take Handshake.recordSize) with
      e | record
    · have hended : (turnedAway l g).link.stage = .ended := rfl
      show (((turnedAway l g).enroll x.1).attend).follow after = turnedAway l g
      rw [enroll_ended hended, attend_ended hended, follow_ended hended]
    · rfl

/-! ## The answer -/

section Answer

variable (l : Link) (g : Gateway) (record : Handshake.Record) (now : Moment)

/-- What an insert leaves of a link, before it is looked after. -/
theorem enroll_spec :
    let v : Visit := Visit.enroll ⟨{ l with stage := .introduced record }, g, []⟩ now
    let inserted := g.table.insert (Gateway.inboundSession l record g.nextTicket now) now
    v.calls = [.insert (Gateway.inboundSession l record g.nextTicket now) now]
      ∧ v.gateway.stopped = g.stopped ∧ v.gateway.table = inserted.2
      ∧ v.link.stage = match inserted.1 with
        | .error _ => .ended
        | .ok id => .watching id g.nextTicket := by
  intro v inserted
  -- the stage of a link is no part of its session
  have hsession : Gateway.inboundSession { l with stage := .introduced record } record
      = Gateway.inboundSession l record := rfl
  refine ⟨rfl, ?_⟩
  simp only [v, inserted, enroll, step, Gateway.enrollInbound, Gateway.takeTicket, hsession]
  rcases g.table.insert (Gateway.inboundSession l record g.nextTicket now) now with ⟨e | id, t⟩
  · exact ⟨rfl, rfl, rfl⟩
  · exact ⟨rfl, rfl, rfl⟩

/-- What the table makes of the session of a node, and whether the gateway is done with it already.
-/
theorem answered_spec :
    (answered l g record now).Settled
      ∧ (answered l g record now).calls
          = [.insert (Gateway.inboundSession l record g.nextTicket now) now]
      ∧ match g.table.insert (Gateway.inboundSession l record g.nextTicket now) now with
        | (.error _, _) => (answered l g record now).link.stage = .ended
        | (.ok id, t) => (answered l g record now).link.stage
            = if g.stopped || t.released.contains g.nextTicket then .ended
              else .watching id g.nextTicket := by
  obtain ⟨hcalls, hstopped, htable, hstage⟩ := enroll_spec l g record now
  unfold answered
  rcases hinsert : g.table.insert (Gateway.inboundSession l record g.nextTicket now) now
    with ⟨e | id, t⟩
  · rw [hinsert] at hstage
    rw [attend_ended hstage]
    exact ⟨settled_of_ended hstage, hcalls, hstage⟩
  · rw [hinsert] at hstage htable
    refine ⟨settled_attend hstage, ?_⟩
    have hattend := attend_watching hstage
    rw [hstopped, htable, hcalls] at hattend
    split at hattend
    next hdone => exact ⟨hattend.2, by simp only [if_pos hdone, hattend.1]⟩
    next hdone =>
      rw [hattend]
      exact ⟨hcalls, by simp only [if_neg hdone]; exact hstage⟩

end Answer

/-- **The answer of the table decides.** If it turns the session away, the link is closed. Otherwise
the link is watched, unless the gateway is done with it already; and once the node is `gone`, the
session of a link that was watched has been removed. -/
def Decided (g : Gateway) (s : Session) (now : Moment) (gone : Bool) (v : Visit) : Prop :=
  match g.table.insert s now with
  | (.error _, _) => v.link.stage = .ended ∧ v.calls = [.insert s now]
  | (.ok id, t) =>
    let done := g.stopped || t.released.contains g.nextTicket
    v.link.stage = (if done || gone then .ended else .watching id g.nextTicket)
      ∧ v.calls = .insert s now :: if !done && gone then [.removeLink g.nextTicket] else []

/-- **Once the table has answered, what comes later changes nothing,** but for the node leaving. -/
theorem decided_follow (l : Link) (g : Gateway) (record : Handshake.Record) (now : Moment)
    (after : List (Moment × Arrival)) :
    ((answered l g record now).follow after).Decided g
      (Gateway.inboundSession l record g.nextTicket now) now (after.any (·.2.departs)) := by
  obtain ⟨hsettled, hcalls, hstage⟩ := answered_spec l g record now
  unfold Decided
  rcases hinsert : g.table.insert (Gateway.inboundSession l record g.nextTicket now) now
    with ⟨e | id, t⟩
  · simp only [hinsert] at hstage
    rw [follow_ended hstage]
    exact ⟨hstage, hcalls⟩
  · simp only [hinsert] at hstage
    simp only
    -- an admitted session may have been torn down by the time its task starts, and then the link is
    -- closed
    rcases hdone : g.stopped || t.released.contains g.nextTicket
    · rw [hdone, if_neg Bool.false_ne_true] at hstage
      rcases hgone : after.any (·.2.departs)
      · rw [follow_settled hsettled hgone]
        exact ⟨hstage, hcalls⟩
      · have hleft := follow_departed hsettled hstage hgone
        rw [hcalls] at hleft
        exact hleft
    · rw [hdone, if_pos rfl] at hstage
      rw [follow_ended hstage]
      exact ⟨hstage, hcalls⟩

/-- A node whose record can be read is in the hands of the table. -/
theorem decided_of_enough
    (henough : Handshake.recordSize ≤ (opening l.deadline arrivals).length)
    {record : Handshake.Record}
    (hdecode : Handshake.Record.decode ((opening l.deadline arrivals).take Handshake.recordSize)
      = .ok record) :
    ∃ now ∈ arrivals.map Prod.fst, ((waiting l g []).follow arrivals).Decided g
      (Gateway.inboundSession l record g.nextTicket now) now (arrivals.any (·.2.departs)) := by
  obtain ⟨x, after, hmem, hgone, hfollow⟩ := follow_of_enough (g := g) henough
  rw [hdecode] at hfollow
  refine ⟨x.1, List.mem_map_of_mem hmem, ?_⟩
  rw [hgone, hfollow]
  exact decided_follow l g record x.1 after

/-! ## Two visits -/

/-- **Two visits that differ in nothing but clock readings** and in what their links do not show:
the table was asked the same, the gateways are the same, and the links stand in the same stage. -/
structure Alike (v v' : Visit) : Prop where
  calls : v.calls.map Table.Operation.untimed = v'.calls.map Table.Operation.untimed
  gateway : v.gateway.untimed = v'.gateway.untimed
  stage : v.link.stage = v'.link.stage

/-- Of two links from one address with the same record the table is asked the same. -/
theorem alike_answered {l l' : Link} (haddress : l.address = l'.address)
    (hsecure : l.secure = l'.secure) (g : Gateway) (record : Handshake.Record)
    (now now' : Moment) : (answered l g record now).Alike (answered l' g record now') := by
  have hsession := Gateway.untimed_inboundSession haddress hsecure record g.nextTicket now now'
  obtain ⟨henrolled, huntimed⟩ := Gateway.untimed_enrollInbound g haddress hsecure record now now'
  obtain ⟨hstage, hgateway⟩ := Gateway.untimed_attend huntimed henrolled
  refine ⟨?_, hgateway, hstage⟩
  rw [(answered_spec l g record now).2.1, (answered_spec l' g record now').2.1]
  simp only [List.map_cons, List.map_nil, Table.Operation.untimed, hsession]

/-- Two links whose first bytes are the same come to the same. -/
theorem alike_follow {l l' : Link} (haddress : l.address = l'.address)
    (hsecure : l.secure = l'.secure) {arrivals arrivals' : List (Moment × Arrival)}
    (henough : Handshake.recordSize ≤ (opening l.deadline arrivals).length)
    (henough' : Handshake.recordSize ≤ (opening l'.deadline arrivals').length)
    (hsame : (opening l.deadline arrivals).take Handshake.recordSize
      = (opening l'.deadline arrivals').take Handshake.recordSize)
    (hhere : arrivals.any (·.2.departs) = false)
    (hhere' : arrivals'.any (·.2.departs) = false) :
    ((waiting l g []).follow arrivals).Alike ((waiting l' g []).follow arrivals') := by
  obtain ⟨x, after, -, hafter, hfollow⟩ := follow_of_enough (g := g) henough
  obtain ⟨x', after', -, hafter', hfollow'⟩ := follow_of_enough (g := g) henough'
  rw [hfollow, hfollow', hsame]
  rcases Handshake.Record.decode ((opening l'.deadline arrivals').take Handshake.recordSize) with
    e | record
  · exact ⟨rfl, rfl, rfl⟩
  · simp only
    rw [follow_settled (answered_spec l g record x.1).1 (hafter ▸ hhere),
      follow_settled (answered_spec l' g record x'.1).1 (hafter' ▸ hhere')]
    exact alike_answered haddress hsecure g record x.1 x'.1

/-! ## From the start -/

/-- A link without encryption that has come in. -/
def arrived (g : Gateway) (peer : Net.SocketAddress) (start : Moment) : Link where
  peer := peer
  secure := false
  deadline := g.handshakeLimit.map (start.steady + ·)
  stage := .greeting []

/-- **A link, from the moment it comes in.** -/
def serve (g : Gateway) (peer : Net.SocketAddress) (start : Moment)
    (arrivals : List (Moment × Arrival)) : Visit := (receive g peer start).follow arrivals

variable {peer : Net.SocketAddress} {start : Moment}

theorem receive_of_allowed (hplain : g.config.tls.enabled = false)
    (hallow : g.table.ledger.wouldAllow peer.host.text = true) :
    receive g peer start = waiting (arrived g peer start) g [] := by
  simp [receive, Gateway.accept, Link.address, hplain, hallow, waiting, arrived]

/-- A link whose address is at its limit is closed before anything is read. -/
theorem receive_of_refused (start : Moment)
    (hrefuse : g.table.ledger.wouldAllow peer.host.text = false) :
    (receive g peer start).link.stage = .ended
      ∧ (receive g peer start).gateway = g.measure (·.reject "admission")
      ∧ (receive g peer start).calls = [] := by
  simp [receive, Gateway.accept, Link.address, hrefuse, Link.closed]

/-- **Only the first 24 bytes of an inbound link matter.** Whatever a gateway is like that does not
encrypt, whoever dials it, and whatever arrives in whatever pieces, the calls that are recorded are
all that is done to the table. A node whose address is at its limit is turned away, and nothing that
it sends is read. Nor is the table asked for a node that has not sent 24 bytes when it leaves or its
time is over, or whose 24 bytes are no record: its link is closed. For every other node it is asked
once, about a session with the address that the link comes from and the address and the port of the
record, and the answer decides. So two links from one host whose first 24 bytes are the same come to
the same as long as their nodes stay: the table is asked the same, and links and gateways differ in
clock readings alone. -/
theorem first_bytes_decide (g : Gateway) (hplain : g.config.tls.enabled = false)
    (peer : Net.SocketAddress) (start : Moment) (arrivals : List (Moment × Arrival)) :
    let v := serve g peer start arrivals
    let allowed := g.table.ledger.wouldAllow peer.host.text
    let limit (start : Moment) := g.handshakeLimit.map (start.steady + ·)
    let heard := opening (limit start) arrivals
    v.Recorded g
      ∧ (allowed = false →
          v = serve g peer start [] ∧ v.calls = [] ∧ v.gateway.table = g.table
            ∧ v.link.stage = .ended)
      ∧ (allowed = true → heard.length < Handshake.recordSize →
          v.calls = [] ∧ v.gateway.table = g.table
            ∧ v.link.stage
              = if arrivals.all (inTime (limit start)) then .greeting heard else .ended)
      ∧ (allowed = true → Handshake.recordSize ≤ heard.length →
          match Handshake.Record.decode (heard.take Handshake.recordSize) with
          | .error _ => v.calls = [] ∧ v.gateway.table = g.table ∧ v.link.stage = .ended
          | .ok record => ∃ now ∈ arrivals.map Prod.fst,
              v.Decided g
                (.start peer.host.text record.address record.port false g.nextTicket now) now
                (arrivals.any (·.2.departs)))
      ∧ ∀ peer' start' arrivals', peer'.host = peer.host →
          let heard' := opening (limit start') arrivals'
          Handshake.recordSize ≤ heard.length → Handshake.recordSize ≤ heard'.length →
          heard.take Handshake.recordSize = heard'.take Handshake.recordSize →
          arrivals.any (·.2.departs) = false → arrivals'.any (·.2.departs) = false →
          v.Alike (serve g peer' start' arrivals') := by
  intro v allowed limit heard
  have hserve : allowed = true → v = (waiting (arrived g peer start) g []).follow arrivals := by
    intro hallow
    show (receive g peer start).follow arrivals = _
    rw [receive_of_allowed hplain hallow]
  have hrefused : allowed = false → v = receive g peer start := fun hrefuse =>
    follow_ended (receive_of_refused start hrefuse).1 arrivals
  refine ⟨(recorded_receive g peer start).follow arrivals, fun hrefuse => ?_,
    fun hallow hshort => ?_, fun hallow henough => ?_, ?_⟩
  · obtain ⟨hstage, hgateway, hcalls⟩ := receive_of_refused start hrefuse
    rw [hrefused hrefuse]
    exact ⟨rfl, hcalls, by rw [hgateway, Gateway.table_measure], hstage⟩
  · have hwaited : v = if arrivals.all (inTime (limit start)) then
        waiting (arrived g peer start) g heard else turnedAway (arrived g peer start) g :=
      (hserve hallow).trans (follow_of_short hshort)
    rw [hwaited]
    split
    · exact ⟨rfl, rfl, rfl⟩
    · exact ⟨rfl, rfl, rfl⟩
  · rw [hserve hallow]
    split
    next e hdecode =>
      obtain ⟨x, after, -, -, hfollow⟩ :=
        follow_of_enough (g := g) (l := arrived g peer start) henough
      have hdecode' : Handshake.Record.decode
          ((opening (arrived g peer start).deadline arrivals).take Handshake.recordSize)
            = .error e := hdecode
      rw [hfollow, hdecode']
      exact ⟨rfl, rfl, rfl⟩
    next record hdecode => exact decided_of_enough (l := arrived g peer start) henough hdecode
  · intro peer' start' arrivals' hhost heard' henough henough' hsame hhere hhere'
    rcases hallow : allowed
    · have hrefuse' : g.table.ledger.wouldAllow peer'.host.text = false := by
        rw [hhost]
        exact hallow
      obtain ⟨hstage, hgateway, hcalls⟩ := receive_of_refused start hallow
      obtain ⟨hstage', hgateway', hcalls'⟩ := receive_of_refused start' hrefuse'
      rw [hrefused hallow]
      show Alike _ ((receive g peer' start').follow arrivals')
      rw [follow_ended hstage']
      exact ⟨by rw [hcalls, hcalls'], by rw [hgateway, hgateway'], hstage.trans hstage'.symm⟩
    · have hallow' : g.table.ledger.wouldAllow peer'.host.text = true := by
        rw [hhost]
        exact hallow
      have haddress : (arrived g peer start).address = (arrived g peer' start').address :=
        congrArg Net.IpAddress.text hhost.symm
      rw [hserve hallow]
      show Alike _ ((receive g peer' start').follow arrivals')
      rw [receive_of_allowed hplain hallow']
      exact alike_follow haddress rfl henough henough' hsame hhere hhere'

-- A record in one piece with payload behind it, and later the same record in two pieces.
theorem first_bytes_decide_cut :
    let g := Gateway.ofConfig { network := { handshakeTimeoutSecs := some 5 }, tls := .disabled }
    let near (port : UInt16) : Net.SocketAddress := ⟨.v4 ⟨10, 0, 0, 1⟩, 0, port⟩
    let record := [1, 0, 0, 0, 49, 48, 46, 48, 46, 48, 46, 49, 0, 0, 0, 0, 0, 0, 0, 0, 40, 35, 0, 0]
    let whole := [(⟨0, 1000⟩, .bytes (record ++ [7, 7]))]
    let cut := [(⟨8, 2000⟩, .bytes (record.take 10)), (⟨9, 3000⟩, .quiet),
      (⟨12, 6000⟩, .bytes (record.drop 10)), (⟨15, 9000⟩, .bytes [1, 2, 3])]
    g.config.tls.enabled = false
      ∧ (serve g (near 40000) ⟨0, 1000⟩ whole).link.stage = .watching ⟨0⟩ 0
      ∧ (serve g (near 40000) ⟨0, 1000⟩ whole).Alike (serve g (near 40001) ⟨8, 2000⟩ cut) := by
  intro g near record whole cut
  obtain ⟨-, -, -, -, htwo⟩ := first_bytes_decide g rfl (near 40000) ⟨0, 1000⟩ whole
  refine ⟨rfl, by decide +kernel, ?_⟩
  exact htwo (near 40001) ⟨8, 2000⟩ cut rfl (by decide) (by decide) (by decide) rfl rfl

end Visit

end SensorGateway
