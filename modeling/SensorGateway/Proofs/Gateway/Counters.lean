import SensorGateway.Command.Execution
import SensorGateway.Gateway.Readings
import SensorGateway.Gateway.Storing
import SensorGateway.Link.Outbound
import SensorGateway.Proofs.Gateway.Steps
import SensorGateway.Proofs.Session.Census

/-!
What the steps of a gateway do to its counters.

The counters are kept by hand, each step adding what it thinks it has done. `Counts` holds a step
against the operations of the table that it calls: the admitted sessions are counted, and the
evicted ones, a refusal is counted under one reason, and the gauge shows how many sessions there are.
There is one lemma for each step.

The steps of a link's task say more. A link is undecided until its node has been admitted or refused,
and `Settles` adds to `Counts` that only the step that decides about a link counts for it.
-/

set_option autoImplicit false

namespace SensorGateway

/-! ## Refusals -/

/-- How many links were refused for a reason. -/
def Metrics.refused (m : Metrics) (reason : String) : Nat := (m.rejections.lookup reason).getD 0

theorem lookup_cons_of_ne {label other : String} (h : label ≠ other) (n : Nat)
    (rest : List (String × Nat)) : ((label, n) :: rest).lookup other = rest.lookup other := by
  have hne : (other == label) = false := beq_eq_false_iff_ne.mpr (Ne.symm h)
  rw [List.lookup_cons, hne]

/-- **A refusal is counted under its own reason,** and under no other. -/
theorem Metrics.refused_reject (m : Metrics) (reason other : String) :
    (m.reject reason).refused other = m.refused other + if reason = other then 1 else 0 := by
  simp only [refused, reject]
  -- the walk goes on to the entry of `reason`, or behind all entries, and changes no other entry
  induction m.rejections with
  | nil =>
    by_cases h : reason = other
    · rw [if_pos h, h, addLabel, List.lookup_cons_self]
      rfl
    · rw [if_neg h, addLabel, lookup_cons_of_ne h]
      rfl
  | cons entry rest ih =>
    obtain ⟨label, n⟩ := entry
    rw [addLabel]
    by_cases hlabel : label = reason
    · rw [if_pos hlabel, ← hlabel]
      by_cases h : label = other
      · rw [if_pos h, h, List.lookup_cons_self, List.lookup_cons_self]
        rfl
      · rw [if_neg h, lookup_cons_of_ne h, lookup_cons_of_ne h]
        rfl
    · rw [if_neg hlabel]
      by_cases hother : label = other
      · have hne : ¬ reason = other := fun h => hlabel (hother.trans h.symm)
        rw [if_neg hne, hother, List.lookup_cons_self, List.lookup_cons_self]
        rfl
      · rw [lookup_cons_of_ne hother, lookup_cons_of_ne hother]
        exact ih

/-! ## Fates -/

/-- What becomes of a link that has come in or was dialed. -/
inductive Fate where
  /-- Its address was at its limit, and nothing was read. -/
  | turnedAway
  /-- Its node did not introduce itself. -/
  | failed
  /-- The table refused its session. -/
  | refused (e : InsertError)
  | admitted (id : SensorId)

namespace Fate

def reason? : Fate → Option String
  | turnedAway => some "admission"
  | failed => some "handshake"
  | refused e => some e.reason
  | admitted _ => none

def isAdmitted : Fate → Bool
  | admitted _ => true
  | _ => false

def ofAnswer : Except InsertError SensorId → Fate
  | .ok id => admitted id
  | .error e => refused e

/-- **Every fate is counted once:** as an admission, or under one of three reasons. -/
theorem counted_once (f : Fate) :
    (f.isAdmitted = true ∧ f.reason? = none) ∨ (f.isAdmitted = false
      ∧ ∃ reason ∈ ["admission", "handshake", "duplicate_port"], f.reason? = some reason) := by
  rcases f with _ | _ | e | id
  · exact Or.inr ⟨rfl, "admission", by simp, rfl⟩
  · exact Or.inr ⟨rfl, "handshake", by simp, rfl⟩
  · rcases e with address | ⟨port, existing⟩
    · exact Or.inr ⟨rfl, "admission", by simp, rfl⟩
    · exact Or.inr ⟨rfl, "duplicate_port", by simp, rfl⟩
  · exact Or.inl ⟨rfl, rfl⟩

end Fate

def Link.undecided (l : Link) : Bool :=
  match l.stage with
  | .securing _ | .greeting _ | .introduced _ => true
  | .watching .. | .ended => false

theorem Link.isClosed_of_undecided {l : Link} (h : l.undecided = true) : l.isClosed = false := by
  rcases hstage : l.stage with received | received | record | ⟨sensor, ticket⟩ | _
  · simp [isClosed, hstage]
  · simp [isClosed, hstage]
  · simp [isClosed, hstage]
  · simp [undecided, hstage] at h
  · simp [undecided, hstage] at h

/-! ## Steps -/

/-- **What a step adds to the counters** for the operations of the table that it calls, and for the
reason that it refuses a link for, if it does. -/
structure Counts (g g' : Gateway) (calls : List Table.Operation) (reason : Option String) :
    Prop where
  table : g'.table = g.table.run calls
  metrics : ∀ m, g.metrics = some m → m.sessionsActive = g.table.activeCount →
    ∃ m', g'.metrics = some m' ∧ m'.sessionsActive = g'.table.activeCount
      ∧ m'.sessionsTotal = m.sessionsTotal + g.table.admissions calls
      ∧ m'.sessionsReaped = m.sessionsReaped + g.table.evictions calls
      ∧ ∀ r, m'.refused r = m.refused r + if reason = some r then 1 else 0

namespace Counts

variable {g g' : Gateway}

/-- A step that leaves table and counters alone counts nothing. -/
theorem quiet (htable : g'.table = g.table) {f : Metrics → Metrics}
    (hmetrics : g'.metrics = g.metrics.map f)
    (hf : ∀ m, (f m).sessionsActive = m.sessionsActive ∧ (f m).sessionsTotal = m.sessionsTotal
      ∧ (f m).sessionsReaped = m.sessionsReaped ∧ (f m).rejections = m.rejections) :
    Counts g g' [] none := by
  refine ⟨htable, ?_⟩
  intro m hm hactive
  obtain ⟨hgauge, htotal, hreaped, hrejections⟩ := hf m
  refine ⟨f m, ?_, ?_, htotal, hreaped, ?_⟩
  · rw [hmetrics, hm]
    rfl
  · rw [hgauge, htable, hactive]
  · intro r
    rw [Metrics.refused, hrejections]
    rfl

/-- A step that calls one operation counts right if its change of the metrics does. -/
theorem call {op : Table.Operation} {f : Metrics → Metrics} {reason : Option String}
    (htable : g'.table = g.table.apply op) (hmetrics : g'.metrics = g.metrics.map f)
    (hactive : ∀ m, m.sessionsActive = g.table.activeCount →
      (f m).sessionsActive = g'.table.activeCount)
    (htotal : ∀ m, (f m).sessionsTotal = m.sessionsTotal + g.table.admits op)
    (hreaped : ∀ m, (f m).sessionsReaped = m.sessionsReaped + g.table.evicts op)
    (hrefused : ∀ m r, (f m).refused r = m.refused r + if reason = some r then 1 else 0) :
    Counts g g' [op] reason := by
  refine ⟨htable, ?_⟩
  intro m hm hgauge
  refine ⟨f m, ?_, hactive m hgauge, htotal m, hreaped m, hrefused m⟩
  rw [hmetrics, hm]
  rfl

/-- An operation that finds nothing to do counts nothing. -/
theorem idle {op : Table.Operation} (h : g.table.apply op = g.table) (hadmits : g.table.admits op = 0)
    (hevicts : g.table.evicts op = 0) : Counts g g [op] none := by
  refine call (f := fun m => m) h.symm Option.map_id'.symm (fun _ hgauge => hgauge) ?_ ?_ ?_
  · intro m
    rw [hadmits]
    rfl
  · intro m
    rw [hevicts]
    rfl
  · intro m r
    rfl

/-- A refusal that does not ask the table is counted under its reason. -/
theorem reject (g : Gateway) (reason : String) :
    Counts g (g.measure (·.reject reason)) [] (some reason) := by
  refine ⟨rfl, ?_⟩
  intro m hm hactive
  refine ⟨m.reject reason, ?_, hactive, rfl, rfl, ?_⟩
  · rw [Gateway.measure, hm]
    rfl
  · intro r
    rw [m.refused_reject]
    simp only [Option.some.injEq]

/-- Sessions leave, and the gauge is set to what is left. -/
theorem leave {t : Table} {op : Table.Operation} (ht : t = g.table.apply op)
    (hadmits : g.table.admits op = 0) (hevicts : g.table.evicts op = 0) {active : Nat}
    (hactive : active = t.activeCount) :
    Counts g ({ g with table := t }.measure (·.showActive active)) [op] none := by
  refine call ht rfl (fun _ _ => hactive) ?_ ?_ (fun _ _ => rfl)
  · intro m
    rw [hadmits]
    rfl
  · intro m
    rw [hevicts]
    rfl

end Counts

namespace Gateway

variable (g : Gateway) (l : Link)

theorem counts_same : Counts g g [] none :=
  Counts.quiet rfl Option.map_id'.symm fun _ => ⟨rfl, rfl, rfl, rfl⟩

theorem counts_showActive : Counts g g.showActive [] none := by
  refine ⟨rfl, ?_⟩
  intro m hm _
  refine ⟨m.showActive g.table.activeCount, ?_, rfl, rfl, rfl, fun _ => rfl⟩
  rw [showActive, measure, hm]
  rfl

/-- What a gateway is after an insert: it has counted a session, or a refusal under the reason of the
table. -/
def inserted (answer : Except InsertError SensorId) (t : Table) : Gateway :=
  match answer with
  | .ok _ => { g with table := t }.measure (·.newSession t.activeCount)
  | .error e => { g with table := t }.measure (·.reject e.reason)

/-- **An insert counts an admitted session, or a refusal under the reason of the table.** -/
theorem counts_insert (x : Session) (now : Moment) :
    Counts g (g.inserted (g.table.insert x now).1 (g.table.insert x now).2) [.insert x now]
        (Fate.ofAnswer (g.table.insert x now).1).reason?
      ∧ g.table.admissions [.insert x now]
        = if (Fate.ofAnswer (g.table.insert x now).1).isAdmitted then 1 else 0 := by
  have happly : (g.table.insert x now).2 = g.table.apply (.insert x now) := rfl
  have hadmits : g.table.admissions [.insert x now] = g.table.admits (.insert x now) := rfl
  rw [hadmits]
  rcases hanswer : (g.table.insert x now).1 with e | id
  · -- a refused insert leaves the roster, and with it what the gauge shows
    have hroster : (g.table.insert x now).2.roster = g.table.roster :=
      (Table.insert_refused hanswer).1
    have hnone : g.table.admits (.insert x now) = 0 := by
      simp only [Table.admits, hanswer]
    refine ⟨Counts.call (f := fun m => m.reject e.reason) happly rfl ?_ ?_ (fun _ => rfl) ?_, hnone⟩
    · intro m hactive
      show m.sessionsActive = (g.table.insert x now).2.roster.activeCount
      rw [hactive, hroster]
      rfl
    · intro m
      rw [hnone]
      rfl
    · intro m r
      rw [m.refused_reject]
      simp only [Fate.ofAnswer, Fate.reason?, Option.some.injEq]
  · have hone : g.table.admits (.insert x now) = 1 := by
      simp only [Table.admits, hanswer]
    refine ⟨Counts.call (f := fun m => m.newSession (g.table.insert x now).2.activeCount) happly rfl
      (fun _ _ => rfl) ?_ (fun _ => rfl) fun _ _ => rfl, hone⟩
    intro m
    rw [hone]
    rfl

/-! ## The steps of a link -/

/-- What a step of a link's task decides: a link that is closed before its node has introduced itself
has failed. -/
def failure? (l : Link) (r : LinkStep) : Option Fate :=
  if l.undecided && r.1.isClosed then some .failed else none

/-- **A step of a link's task** calls some operations, and decides about the link or leaves it as
undecided as it was. -/
structure Settles (g : Gateway) (l : Link) (r : LinkStep) (calls : List Table.Operation)
    (fate : Option Fate) : Prop where
  counts : Counts g r.2.1 calls (fate.bind Fate.reason?)
  admitted : g.table.admissions calls = if fate.any Fate.isAdmitted then 1 else 0
  once : fate.isSome = true → l.undecided = true
  after : r.1.undecided = (l.undecided && fate.isNone)

variable {g l}

/-- A link whose node has not introduced itself fails, and the failure is counted. -/
theorem settles_refuse (h : l.undecided = true) (l' : Link) (e : GatewayError) :
    Settles g l (g.refuse l' e) [] (failure? l (g.refuse l' e)) := by
  have hfate : failure? l (g.refuse l' e) = some .failed := by
    simp [failure?, h, refuse, Link.closed, Link.isClosed]
  rw [hfate]
  refine ⟨Counts.reject g "handshake", rfl, fun _ => h, ?_⟩
  rw [h]
  rfl

/-- A step that leaves the gateway alone, and the link as undecided as it was, decides nothing. -/
theorem settles_still {l' : Link} (h : l'.undecided = l.undecided) (notices : List Notice) :
    Settles g l (l', g, notices) [] none := by
  refine ⟨g.counts_same, rfl, ?_, ?_⟩
  · intro hsome
    cases hsome
  · rw [Option.isNone_none, Bool.and_true]
    exact h

theorem settles_wait {l' : Link} (h : l'.undecided = l.undecided) (notices : List Notice) :
    Settles g l (l', g, notices) [] (failure? l (l', g, notices)) := by
  have hfate : failure? l (l', g, notices) = none := by
    by_cases hundecided : l.undecided = true
    · rw [hundecided] at h
      simp [failure?, Link.isClosed_of_undecided h]
    · simp [failure?, hundecided]
  rw [hfate]
  exact settles_still h notices

theorem failure?_of_decided (h : l.undecided = false) (r : LinkStep) : failure? l r = none := by
  simp [failure?, h]

/-- What is done about a decided link decides nothing. -/
theorem settles_decided (h : l.undecided = false) {r : LinkStep} {calls : List Table.Operation}
    (hcounts : Counts g r.2.1 calls none) (hadmits : g.table.admissions calls = 0)
    (hafter : r.1.undecided = false) : Settles g l r calls none := by
  refine ⟨hcounts, hadmits, ?_, ?_⟩
  · intro hsome
    cases hsome
  · rw [hafter, h]
    rfl

/-- Bytes of a node settle its link if they cannot be read, and only while it introduces itself. -/
theorem settles_hear (g : Gateway) (l : Link) (chunk : List UInt8) :
    Settles g l (g.hear l chunk) [] (failure? l (g.hear l chunk)) := by
  -- while it is securing or greeting a link reads, and in the other stages it does not
  rcases hstage : l.stage with received | received | record | ⟨sensor, ticket⟩ | _
  · have hundecided : l.undecided = true := by rw [Link.undecided, hstage]
    simp only [hear, hstage]
    split
    · exact settles_refuse hundecided _ _
    · refine settles_wait ?_ []
      rw [hundecided]
      rfl
  · have hundecided : l.undecided = true := by rw [Link.undecided, hstage]
    simp only [hear, hstage, introduce]
    split
    · refine settles_wait ?_ []
      rw [hundecided]
      rfl
    · split
      · refine settles_wait ?_ []
        rw [hundecided]
        rfl
      · exact settles_refuse hundecided _ _
  · simp only [hear, hstage]
    exact settles_wait rfl []
  · simp only [hear, hstage]
    exact settles_wait rfl []
  · simp only [hear, hstage]
    exact settles_wait rfl []

/-- A link that is late is refused, and only an undecided link is late. -/
theorem settles_expire (g : Gateway) (l : Link) (now : Moment) :
    Settles g l (g.expire l now) [] (failure? l (g.expire l now)) := by
  unfold expire
  split
  next hlate =>
    have hundecided : l.undecided = true := by
      unfold isLate at hlate
      split at hlate
      next hstage _ => rw [Link.undecided, hstage]
      next hstage _ => rw [Link.undecided, hstage]
      next => cases hlate
    exact settles_refuse hundecided l _
  next => exact settles_wait rfl []

def answer? (g : Gateway) (l : Link) (now : Moment) : Option Fate :=
  match l.stage with
  | .introduced record =>
    some (.ofAnswer (g.table.insert (inboundSession l record g.nextTicket now) now).1)
  | _ => none

/-- The answer of the table settles a link whose node has introduced itself. -/
theorem settles_enrollInbound (g : Gateway) (l : Link) (now : Moment) :
    Settles g l (g.enrollInbound l now) (l.enrolling? g.nextTicket now).toList
      (g.answer? l now) := by
  rcases hstage : l.stage with received | received | record | ⟨sensor, ticket⟩ | _
  · simp only [enrollInbound, answer?, Link.enrolling?, hstage]
    exact settles_still rfl []
  · simp only [enrollInbound, answer?, Link.enrolling?, hstage]
    exact settles_still rfl []
  · have hundecided : l.undecided = true := by rw [Link.undecided, hstage]
    have hinsert := g.takeTicket.2.counts_insert (inboundSession l record g.nextTicket now) now
    obtain ⟨hcounts, hadmitted⟩ := hinsert
    simp only [enrollInbound, answer?, Link.enrolling?, hstage]
    have htable : g.takeTicket.2.table = g.table := rfl
    rw [htable] at hcounts hadmitted
    rcases hanswer : g.table.insert (inboundSession l record g.nextTicket now) now with ⟨e | id, t⟩
    · rw [hanswer] at hcounts hadmitted
      simp only [takeTicket, hanswer]
      refine ⟨⟨hcounts.table, hcounts.metrics⟩, hadmitted, fun _ => hundecided, ?_⟩
      rw [hundecided]
      rfl
    · rw [hanswer] at hcounts hadmitted
      simp only [takeTicket, hanswer]
      refine ⟨⟨hcounts.table, hcounts.metrics⟩, hadmitted, fun _ => hundecided, ?_⟩
      rw [hundecided]
      rfl
  · simp only [enrollInbound, answer?, Link.enrolling?, hstage]
    exact settles_still rfl []
  · simp only [enrollInbound, answer?, Link.enrolling?, hstage]
    exact settles_still rfl []

/-- A session that leaves by its link is taken out, and the gauge set to what is left. -/
theorem counts_leave (g : Gateway) (l : Link) (sensor : SensorId) (ticket : Ticket) :
    Counts g (g.leave l sensor ticket).2.1 [.removeLink ticket] none
      ∧ (g.leave l sensor ticket).1 = l.closed := by
  unfold leave
  rcases hremove : g.table.removeLink ticket with ⟨_ | gone, t⟩
  · -- the session was gone already; the gauge is set all the same
    have ht : g.table = g.table.apply (.removeLink ticket) := by
      rcases Table.removeWhere_cases g.table (·.link = some ticket) with ⟨-, heq⟩ | ⟨x, r, -, heq⟩
      · exact (congrArg Prod.snd heq).symm
      · have hsome : g.table.removeLink ticket = _ := heq
        rw [hremove] at hsome
        cases hsome
    exact ⟨Counts.leave (g := g) ht rfl rfl rfl, rfl⟩
  · have ht : t = g.table.apply (.removeLink ticket) := (congrArg Prod.snd hremove).symm
    exact ⟨Counts.leave ht rfl rfl rfl, rfl⟩

/-- A node that hangs up fails, before it has introduced itself, and takes its session out
afterwards. -/
theorem settles_hangUp (g : Gateway) (l : Link) :
    Settles g l (g.hangUp l) l.parting?.toList (failure? l (g.hangUp l)) := by
  rcases hstage : l.stage with received | received | record | ⟨sensor, ticket⟩ | _
  · have hundecided : l.undecided = true := by rw [Link.undecided, hstage]
    simp only [hangUp, Link.parting?, hstage]
    exact settles_refuse hundecided l _
  · have hundecided : l.undecided = true := by rw [Link.undecided, hstage]
    simp only [hangUp, Link.parting?, hstage]
    exact settles_refuse hundecided l _
  · simp only [hangUp, Link.parting?, hstage]
    exact settles_wait rfl []
  · have hdecided : l.undecided = false := by rw [Link.undecided, hstage]
    obtain ⟨hcounts, hclosed⟩ := g.counts_leave l sensor ticket
    rw [failure?_of_decided hdecided]
    simp only [hangUp, Link.parting?, hstage]
    refine settles_decided hdecided hcounts rfl ?_
    rw [hclosed]
    rfl
  · simp only [hangUp, Link.parting?, hstage]
    exact settles_wait rfl []

/-- A fault of the socket settles a link as a node that hangs up does. -/
theorem settles_breakDown (g : Gateway) (l : Link) (fault : OsFault) :
    Settles g l (g.breakDown l fault) l.parting?.toList (failure? l (g.breakDown l fault)) := by
  obtain ⟨hcounts, hadmitted, honce, hafter⟩ := g.settles_hangUp l
  -- a fault of the socket has a line of its own in the log, and is else a node that hangs up
  have hsame : (g.breakDown l fault).1 = (g.hangUp l).1
      ∧ (g.breakDown l fault).2.1 = (g.hangUp l).2.1 := by
    rcases hstage : l.stage with received | received | record | ⟨sensor, ticket⟩ | _
    · simp only [breakDown, hangUp, hstage, refuse, and_self]
    · simp only [breakDown, hangUp, hstage, refuse, and_self]
    · simp only [breakDown, hangUp, hstage, and_self]
    · simp only [breakDown, hangUp, hstage, and_self]
    · simp only [breakDown, hangUp, hstage, and_self]
  have hfate : failure? l (g.breakDown l fault) = failure? l (g.hangUp l) := by
    rw [failure?, hsame.1]
    rfl
  rw [hfate]
  exact ⟨hsame.2 ▸ hcounts, hadmitted, honce, hsame.1 ▸ hafter⟩

/-- A task that looks after its link decides nothing. -/
theorem settles_attend (g : Gateway) (l : Link) : Settles g l (g.attend l) [] none := by
  unfold attend
  split
  next hstage =>
    have hdecided : l.undecided = false := by rw [Link.undecided, hstage]
    split
    · exact settles_decided hdecided g.counts_showActive rfl rfl
    · exact settles_still rfl []
  next => exact settles_still rfl []

/-! ## What else the gateway does -/

/-- A link that comes in is turned away under `admission`, or it is undecided. -/
theorem counts_accept (g : Gateway) (peer : Net.SocketAddress) (now : Moment) :
    Counts g (g.accept peer now).2.1 []
        (if g.table.ledger.wouldAllow peer.host.text then none else some "admission")
      ∧ (g.accept peer now).1.undecided = g.table.ledger.wouldAllow peer.host.text := by
  by_cases hallow : g.table.ledger.wouldAllow peer.host.text = true
  · have hstage : ∀ secure : Bool,
        (Link.undecided ⟨peer, secure, g.handshakeLimit.map (now.steady + ·),
          if secure then .securing [] else .greeting [], []⟩) = true := by
      intro secure
      rcases secure
      · rfl
      · rfl
    rw [if_pos hallow, hallow]
    simp only [accept, Link.address, hallow, if_true]
    exact ⟨g.counts_same, hstage _⟩
  · have hdeny := Bool.eq_false_iff.mpr hallow
    rw [if_neg hallow, hdeny]
    simp only [accept, Link.address, hdeny, Bool.false_eq_true, if_false]
    exact ⟨Counts.reject g "admission", rfl⟩

/-- The answer of the table settles a dialed link, too. -/
theorem counts_enrollOutbound (g : Gateway) (l : Link) (ip : Net.Ipv4) (port : UInt16)
    (now : Moment) :
    let x := g.takeTicket.2.outboundSession ip port g.nextTicket now
    let fate := Fate.ofAnswer (g.table.insert x now).1
    Counts g (g.enrollOutbound l ip port now).2.2.1 [.insert x now] fate.reason?
      ∧ g.table.admissions [.insert x now] = (if fate.isAdmitted then 1 else 0)
      ∧ (g.enrollOutbound l ip port now).2.1.undecided = false := by
  intro x fate
  obtain ⟨hcounts, hadmitted⟩ := g.takeTicket.2.counts_insert x now
  -- a ticket is taken first, which is nothing to table and counters
  have htable : g.takeTicket.2.table = g.table := rfl
  rw [htable] at hcounts hadmitted
  have hlink : (g.enrollOutbound l ip port now).2.1.undecided = false
      ∧ (g.enrollOutbound l ip port now).2.2.1
        = g.takeTicket.2.inserted (g.table.insert x now).1 (g.table.insert x now).2 := by
    have hsession : g.takeTicket.2.outboundSession ip port g.takeTicket.1 now = x := rfl
    simp only [enrollOutbound, hsession, htable]
    rcases g.table.insert x now with ⟨e | id, t⟩
    · exact ⟨rfl, rfl⟩
    · exact ⟨rfl, rfl⟩
  rw [hlink.2]
  exact ⟨⟨hcounts.table, hcounts.metrics⟩, hadmitted, hlink.1⟩

/-- A sweep counts the sessions that it takes out. -/
theorem counts_sweep (g : Gateway) (now : Moment) :
    Counts g (g.sweep now).2.1
      [.reapIdle now.steady (g.config.session.idleTimeoutSecs * 1000)] none := by
  have hlen := g.table.length_reapIdle now.steady (g.config.session.idleTimeoutSecs * 1000)
  have hcount := g.table.activeCount_reapIdle now.steady (g.config.session.idleTimeoutSecs * 1000)
  unfold sweep
  rcases hreap : g.table.reapIdle now.steady (g.config.session.idleTimeoutSecs * 1000) with ⟨gone, t⟩
  have ht : t = g.table.apply (.reapIdle now.steady (g.config.session.idleTimeoutSecs * 1000)) :=
    (congrArg Prod.snd hreap).symm
  rw [hreap] at hlen hcount
  by_cases hempty : gone.isEmpty = true
  · have hnil : gone.length = 0 := List.length_eq_zero_iff.mpr (List.isEmpty_iff.mp hempty)
    -- the gauge is not touched, so it has to be right already
    simp only [if_pos hempty]
    refine Counts.call ht (f := id) ?_ ?_ (fun _ => rfl) ?_ (fun _ _ => rfl)
    · rw [Option.map_id_fun, id]
    · intro m hactive
      show m.sessionsActive = t.activeCount
      have hsame : t.activeCount = g.table.activeCount - gone.length := hcount
      rw [hactive, hsame, hnil]
      rfl
    · intro m
      rw [← hlen]
      exact congrArg (m.sessionsReaped + ·) hnil.symm
  · simp only [if_neg hempty]
    refine Counts.call ht rfl (fun _ _ => rfl) (fun _ => rfl) ?_ (fun _ _ => rfl)
    intro m
    rw [← hlen]
    rfl

def called? : Command → Option Table.Operation
  | .terminate id => some (.remove id)
  | _ => none

/-- An operator takes out one session or none. -/
theorem counts_terminate (g : Gateway) (d : Disk) (id : SensorId) :
    Counts g (g.terminate d id).2.1 [.remove id] none := by
  unfold terminate
  rcases Table.removeWhere_cases g.table (·.sensor = id) with ⟨-, heq⟩ | ⟨x, r, -, heq⟩
  · have hremove : g.table.remove id = (none, g.table) := heq
    rw [hremove]
    exact Counts.idle (congrArg Prod.snd hremove) rfl rfl
  · have hremove : g.table.remove id = _ := heq
    have ht := (congrArg Prod.snd hremove).symm
    rw [hremove]
    exact Counts.leave ht rfl rfl rfl

/-- Of all commands only that one reaches table or counters. -/
theorem counts_execute (g : Gateway) (d : Disk) (now : Moment) (command : Command) :
    Counts g (g.execute d now command).2.1 (called? command).toList none := by
  cases command with
  | terminate id => exact g.counts_terminate d id
  | readDb =>
    show Counts g (g.readDatabase d).2.1 [] none
    unfold readDatabase
    split
    · exact g.counts_same
    · exact g.counts_same
    · exact g.counts_same
  | log =>
    show Counts g (g.printLog d).2.1 [] none
    unfold printLog
    split
    · exact g.counts_same
    · split
      · exact g.counts_same
      · exact g.counts_same
  | clearLog =>
    show Counts g (g.clearLog d now).2.1 [] none
    unfold clearLog
    split
    · exact g.counts_same
    · split
      · exact g.counts_same
      · exact g.counts_same
  | quit => exact g.counts_same
  | help => exact g.counts_same
  | connect ip port => exact g.counts_same
  | stats => exact g.counts_same
  | status => exact g.counts_same

/-- A reading changes neither the number of sessions nor what is counted of them. -/
theorem counts_record (g : Gateway) (id : SensorId) (temperature : Temperature) (now : Moment) :
    Counts g (g.record id temperature now).2
      [.updateReading id ⟨now.seconds, id, temperature, true⟩ now] none := by
  have hcases := g.table.updateReading_cases id ⟨now.seconds, id, temperature, true⟩ now
  -- whoever has the number hears the reading, or nobody has it
  rcases hupdate : g.table.updateReading id ⟨now.seconds, id, temperature, true⟩ now with ⟨_ | _, t⟩
  · have hsame : g.table.apply (.updateReading id ⟨now.seconds, id, temperature, true⟩ now)
        = g.table := by
      rcases hcases with heq | heq
      · exact congrArg Prod.snd heq
      · rw [hupdate] at heq
        cases heq
    simp only [record, hupdate]
    exact Counts.idle hsame rfl rfl
  · have ht : t = g.table.apply (.updateReading id ⟨now.seconds, id, temperature, true⟩ now) :=
      (congrArg Prod.snd hupdate).symm
    have hcount : t.activeCount = g.table.activeCount := by
      rcases hcases with heq | heq
      · rw [hupdate] at heq
        cases heq
      · rw [hupdate] at heq
        cases heq
        rfl
    simp only [record, hupdate]
    refine Counts.call ht rfl ?_ (fun _ => rfl) (fun _ => rfl) fun _ _ => rfl
    intro m hactive
    exact hactive.trans hcount.symm

/-- The worker counts nothing of sessions. -/
theorem counts_store (g : Gateway) (answers : Storage.Queue.Answers) (now : Moment) :
    Counts g (g.store answers now).2.1 [] none := by
  -- the worker counts drains and readings, and leaves what is told of sessions as it is
  unfold store
  rcases hcycle : g.queue.cycle answers now.wall with ⟨outcome, q, notices⟩
  rcases outcome with e | report | attempt
  · simp only [afterCycle]
    split
    · exact Counts.quiet rfl Option.map_id'.symm fun _ => ⟨rfl, rfl, rfl, rfl⟩
    · exact Counts.quiet rfl rfl fun _ => ⟨rfl, rfl, rfl, rfl⟩
  · simp only [afterCycle, measure, Option.map_map]
    exact Counts.quiet rfl rfl fun _ => ⟨rfl, rfl, rfl, rfl⟩
  · simp only [afterCycle]
    exact Counts.quiet rfl rfl fun _ => ⟨rfl, rfl, rfl, rfl⟩

theorem counts_stop (g : Gateway) : Counts g g.stop [] none :=
  Counts.quiet rfl Option.map_id'.symm fun _ => ⟨rfl, rfl, rfl, rfl⟩

/-- A table that is cleared leaves nobody, and nobody is what the gauge shows. -/
theorem counts_clear (g : Gateway) :
    Counts g ({ g with table := g.table.clear.2 }.measure (·.showActive 0)) [.clear] none := by
  have happly : g.table.clear.2 = g.table.apply .clear := rfl
  -- the gauge is set to zero without asking the table
  have hnobody : g.table.clear.2.activeCount = 0 := by
    unfold Table.clear Table.activeCount
    rw [Table.roster_tearDownAll]
    rfl
  exact Counts.leave happly rfl rfl hnobody.symm

end Gateway

end SensorGateway
