import SensorGateway.Plant.Basic
import SensorGateway.Proofs.Gateway.Counters

/-!
Every link is counted once.

`Turnstile` is a gateway with all the links that have come in or were dialed, and with what has been
decided about each. Its events are the steps of the tasks of links, of the reaper, the console, the
sampler and the storage worker, and the end of the gateway, one at a time and in any order.

`links_accounted` holds the metrics against both records, the operations of the table and the
fates of the links: neither the counters nor the gauge ever drift.
-/

set_option autoImplicit false

namespace SensorGateway

/-! ## Events and runs -/

/-- A step of the task of a link, or what happens to it. -/
inductive Act where
  /-- Encryption has been agreed on. -/
  | secured
  | hear (chunk : List UInt8)
  | expire (now : Moment)
  | enroll (now : Moment)
  | hangUp
  | breakDown (fault : OsFault)
  | attend

namespace Act

def step (g : Gateway) (l : Link) : Act → Gateway.LinkStep
  | secured => (Gateway.secured l, g, [])
  | hear chunk => g.hear l chunk
  | expire now => g.expire l now
  | enroll now => g.enrollInbound l now
  | hangUp => g.hangUp l
  | breakDown fault => g.breakDown l fault
  | attend => g.attend l

/-- The operation of the table that a step calls. -/
def call? (g : Gateway) (l : Link) : Act → Option Table.Operation
  | enroll now => l.enrolling? g.nextTicket now
  | hangUp => l.parting?
  | breakDown _ => l.parting?
  | _ => none

/-- What a step decides about a link: the table answers the insert of its session, or it fails
before. -/
def decides? (g : Gateway) (l : Link) : Act → Option Fate
  | enroll now => g.answer? l now
  | attend => none
  | a => Gateway.failure? l (a.step g l)

/-- **Every step of a link's task counts what it decides.** -/
theorem settles (g : Gateway) (l : Link) (a : Act) :
    Gateway.Settles g l (a.step g l) (a.call? g l).toList (a.decides? g l) := by
  cases a with
  | secured =>
    have hstill : (Gateway.secured l).undecided = l.undecided := by
      unfold Gateway.secured
      split
      next hstage => simp only [Link.undecided, hstage]
      next => rfl
    exact Gateway.settles_wait hstill []
  | hear chunk => exact g.settles_hear l chunk
  | expire now => exact g.settles_expire l now
  | enroll now => exact g.settles_enrollInbound l now
  | hangUp => exact g.settles_hangUp l
  | breakDown fault => exact g.settles_breakDown l fault
  | attend => exact g.settles_attend l

end Act

/-- A link that has come in or was dialed, and what has been decided about it. -/
structure Passage where
  link : Link
  fate : Option Fate

namespace Passage

def isAdmitted (p : Passage) : Bool := p.fate.any Fate.isAdmitted

def reason? (p : Passage) : Option String := p.fate.bind Fate.reason?

end Passage

/-- **A gateway with all its links.** -/
structure Turnstile where
  gateway : Gateway
  passages : List Passage := []
  /-- The operations of the table that were called, the first one first. -/
  calls : List Table.Operation := []

namespace Turnstile

def start (c : Config) : Turnstile := { gateway := Gateway.ofConfig c }

inductive Event where
  | arrive (peer : Net.SocketAddress) (now : Moment)
  | act (i : Nat) (a : Act)
  /-- An operator has the gateway dial a node. -/
  | connect (ip : Net.Ipv4) (port : UInt16) (ownAddress : String) (reach : Gateway.Reach)
      (fault : Option OsFault) (now : Moment)
  | command (d : Disk) (now : Moment) (command : Command)
  | sweep (now : Moment)
  | record (id : SensorId) (temperature : Temperature) (now : Moment)
  | store (answers : Storage.Queue.Answers) (now : Moment)
  | stop
  /-- No more links are accepted, and every session goes. -/
  | close

/-- The end of accepting links. -/
def closed (g : Gateway) : Gateway := { g with table := g.table.clear.2 }.measure (·.showActive 0)

/-- A step of the task of a link. -/
def onPassage (s : Turnstile) (i : Nat) (a : Act) : Turnstile :=
  match s.passages[i]? with
  | none => s
  | some p =>
    { gateway := (a.step s.gateway p.link).2.1
      passages := s.passages.set i
        { p with
          link := (a.step s.gateway p.link).1
          -- what has been decided about a link stays
          fate := p.fate.or (a.decides? s.gateway p.link) }
      calls := s.calls ++ (a.call? s.gateway p.link).toList }

/-- A dialed link stands, and its session is inserted. -/
def enrollOutbound (s : Turnstile) (ip : Net.Ipv4) (port : UInt16) (sent : List UInt8)
    (now : Moment) : Turnstile :=
  let x := s.gateway.takeTicket.2.outboundSession ip port s.gateway.nextTicket now
  let l : Link :=
    { peer := ⟨.v4 ip, 0, port⟩, secure := s.gateway.config.clientTls.enabled
      stage := .ended, sent := sent }
  let (_, l, g, _) := s.gateway.enrollOutbound l ip port now
  { gateway := g
    passages := s.passages ++ [⟨l, some (.ofAnswer (s.gateway.table.insert x now).1)⟩]
    calls := s.calls ++ [.insert x now] }

def step (s : Turnstile) : Event → Turnstile
  | .arrive peer now =>
    let fate := if s.gateway.table.ledger.wouldAllow peer.host.text then none else some .turnedAway
    { s with
      gateway := (s.gateway.accept peer now).2.1
      passages := s.passages ++ [⟨(s.gateway.accept peer now).1, fate⟩] }
  | .act i a => s.onPassage i a
  | .connect ip port ownAddress reach fault now =>
    match s.gateway.dial ip ownAddress reach fault with
    | .standing sent => s.enrollOutbound ip port sent now
    | .waiting => s
    | .failed _ => s
  | .command d now command =>
    { s with
      gateway := (s.gateway.execute d now command).2.1
      calls := s.calls ++ (Gateway.called? command).toList }
  | .sweep now =>
    { s with
      gateway := (s.gateway.sweep now).2.1
      calls := s.calls
        ++ [.reapIdle now.steady (s.gateway.config.session.idleTimeoutSecs * 1000)] }
  | .record id temperature now =>
    { s with
      gateway := (s.gateway.record id temperature now).2
      calls := s.calls ++ [.updateReading id ⟨now.seconds, id, temperature, true⟩ now] }
  | .store answers now => { s with gateway := (s.gateway.store answers now).2.1 }
  | .stop => { s with gateway := s.gateway.stop }
  | .close => { s with gateway := closed s.gateway, calls := s.calls ++ [.clear] }

/-- **The turnstile after a list of events,** the first one first. -/
def run (s : Turnstile) (events : List Event) : Turnstile := events.foldl step s

theorem gateway_closeGateway (p : Plant) : p.closeGateway.gateway = closed p.gateway := rfl

/-! ## The invariant -/

def admitted (passages : List Passage) : Nat := passages.countP Passage.isAdmitted

def refused (reason : String) (passages : List Passage) : Nat :=
  passages.countP fun p => p.reason? = some reason

/-- **Both records agree with the metrics,** that of the table and that of the links. -/
structure Kept (t₀ : Table) (s : Turnstile) : Prop where
  table : s.gateway.table = t₀.run s.calls
  metrics : ∃ m, s.gateway.metrics = some m ∧ m.sessionsActive = s.gateway.table.activeCount
    ∧ m.sessionsTotal = t₀.admissions s.calls ∧ m.sessionsReaped = t₀.evictions s.calls
    ∧ ∀ reason, m.refused reason = refused reason s.passages
  agree : t₀.admissions s.calls = admitted s.passages
  decided : ∀ p ∈ s.passages, p.link.undecided = p.fate.isNone

variable {t₀ : Table} {s : Turnstile}

/-- A step that counts right keeps the records, if it is entered in both. -/
theorem Kept.enter (h : s.Kept t₀) {g : Gateway} {passages : List Passage}
    {calls : List Table.Operation} {reason : Option String}
    (hcounts : Counts s.gateway g calls reason)
    (hadmitted : admitted passages = admitted s.passages + s.gateway.table.admissions calls)
    (hrefused : ∀ r, refused r passages = refused r s.passages + if reason = some r then 1 else 0)
    (hdecided : ∀ p ∈ passages, p.link.undecided = p.fate.isNone) :
    Kept t₀ ⟨g, passages, s.calls ++ calls⟩ := by
  obtain ⟨m, hm, hactive, htotal, hreaped, hrefusals⟩ := h.metrics
  obtain ⟨m', hm', hactive', htotal', hreaped', hrefusals'⟩ := hcounts.metrics m hm hactive
  have hadmissions : t₀.admissions (s.calls ++ calls)
      = t₀.admissions s.calls + s.gateway.table.admissions calls := by
    rw [h.table]
    exact Table.sumAlong_append _ t₀ s.calls calls
  have hevictions : t₀.evictions (s.calls ++ calls)
      = t₀.evictions s.calls + s.gateway.table.evictions calls := by
    rw [h.table]
    exact Table.sumAlong_append _ t₀ s.calls calls
  refine ⟨?_, ⟨m', hm', hactive', ?_, ?_, ?_⟩, ?_, hdecided⟩
  · rw [Table.run_append, ← h.table]
    exact hcounts.table
  · rw [htotal', htotal, hadmissions]
  · rw [hreaped', hreaped, hevictions]
  · intro r
    rw [hrefusals', hrefusals, hrefused]
  · rw [hadmissions, h.agree, hadmitted]

/-- What calls no insert is entered in the record of the table alone. -/
theorem Kept.other (h : s.Kept t₀) {g : Gateway} {calls : List Table.Operation}
    (hcounts : Counts s.gateway g calls none) (hnone : s.gateway.table.admissions calls = 0) :
    Kept t₀ ⟨g, s.passages, s.calls ++ calls⟩ := by
  refine h.enter hcounts ?_ (fun r => rfl) h.decided
  rw [hnone, Nat.add_zero]

/-- What calls nothing and counts nothing is entered nowhere. -/
theorem Kept.same (h : s.Kept t₀) {g : Gateway} (hcounts : Counts s.gateway g [] none) :
    Kept t₀ ⟨g, s.passages, s.calls⟩ := by
  have hother := h.other hcounts rfl
  rwa [List.append_nil] at hother

/-- A link that comes in or is dialed is entered with what has been decided about it by then. -/
theorem Kept.append (h : s.Kept t₀) {g : Gateway} {calls : List Table.Operation} {p : Passage}
    (hcounts : Counts s.gateway g calls p.reason?)
    (hadmitted : s.gateway.table.admissions calls = if p.isAdmitted then 1 else 0)
    (hdecided : p.link.undecided = p.fate.isNone) :
    Kept t₀ ⟨g, s.passages ++ [p], s.calls ++ calls⟩ := by
  refine h.enter hcounts ?_ ?_ ?_
  · rw [admitted, List.countP_append, List.countP_singleton, hadmitted]
    rfl
  · intro r
    rw [refused, List.countP_append, List.countP_singleton]
    simp only [decide_eq_true_eq]
    rfl
  · intro x hx
    rcases List.mem_append.mp hx with hold | hnew
    · exact h.decided x hold
    · rw [List.mem_singleton.mp hnew]
      exact hdecided

/-- A passage that changes its fate changes a count by what the fates differ in. -/
theorem countP_settled {passages : List Passage} {i : Nat} {p p' : Passage}
    (hi : passages[i]? = some p) {q : Passage → Bool} {n : Nat}
    (hq : (if q p' then 1 else 0) = (if q p then 1 else 0) + n) :
    (passages.set i p').countP q = passages.countP q + n := by
  obtain ⟨hlt, hget⟩ := List.getElem?_eq_some_iff.mp hi
  have hpos : (if q p then 1 else 0) ≤ passages.countP q := by
    split
    next hp => exact List.countP_pos_iff.mpr ⟨p, List.mem_of_getElem? hi, hp⟩
    next => exact Nat.zero_le _
  -- `countP_set` takes the old passage out by a subtraction, which `hpos` says does not stop at zero
  rw [List.countP_set hlt, hget, hq]
  omega

/-- **A step that settles a link keeps the records:** a fate is given once, and counted when it is
given. -/
theorem Kept.settle (h : s.Kept t₀) {i : Nat} {p : Passage} (hi : s.passages[i]? = some p)
    {r : Gateway.LinkStep} {calls : List Table.Operation} {fate : Option Fate}
    (hsettles : Gateway.Settles s.gateway p.link r calls fate) :
    Kept t₀ ⟨r.2.1, s.passages.set i { p with link := r.1, fate := p.fate.or fate },
      s.calls ++ calls⟩ := by
  obtain ⟨hcounts, hadmitted, honce, hafter⟩ := hsettles
  -- by `hp` the link is undecided exactly if it has no fate yet, before the step and after it
  have hp := h.decided p (List.mem_of_getElem? hi)
  have hset : r.1.undecided = (p.fate.or fate).isNone → ∀ x ∈ s.passages.set i
      { p with link := r.1, fate := p.fate.or fate }, x.link.undecided = x.fate.isNone := by
    intro hnew x hx
    rcases List.mem_or_eq_of_mem_set hx with hold | rfl
    · exact h.decided x hold
    · exact hnew
  rcases fate with _ | f
  · -- nothing is decided, and the passage is counted where it was
    refine h.enter hcounts ?_ ?_ (hset ?_)
    · rw [hadmitted]
      apply countP_settled hi
      simp only [Passage.isAdmitted, Option.or_none]
      rfl
    · intro reason
      apply countP_settled hi
      simp only [Passage.reason?, Option.or_none]
      rfl
    · rw [hafter, hp, Option.or_none, Option.isNone_none, Bool.and_true]
  · -- only a link that is undecided is decided about
    have hundecided := honce rfl
    rw [hundecided] at hp
    have hopen : p.fate = none := Option.isNone_iff_eq_none.mp hp.symm
    refine h.enter hcounts ?_ ?_ (hset ?_)
    · rw [hadmitted]
      apply countP_settled hi
      simp only [Passage.isAdmitted, hopen, Option.none_or]
      exact (Nat.zero_add _).symm
    · intro reason
      apply countP_settled hi
      simp only [Passage.reason?, hopen, Option.none_or, decide_eq_true_eq]
      exact (Nat.zero_add _).symm
    · rw [hafter, hopen, hundecided]
      rfl

/-- So does any step of the task of a link, wherever the link stands. -/
theorem Kept.onPassage (h : s.Kept t₀) (i : Nat) (a : Act) : (s.onPassage i a).Kept t₀ := by
  unfold Turnstile.onPassage
  rcases hi : s.passages[i]? with _ | p
  · exact h
  · exact h.settle hi (a.settles s.gateway p.link)

/-- A dialed link is decided about as soon as it stands. -/
theorem Kept.enrollOutbound (h : s.Kept t₀) (ip : Net.Ipv4) (port : UInt16) (sent : List UInt8)
    (now : Moment) : (s.enrollOutbound ip port sent now).Kept t₀ := by
  obtain ⟨hcounts, hadmitted, hlink⟩ := s.gateway.counts_enrollOutbound
    { peer := ⟨.v4 ip, 0, port⟩, secure := s.gateway.config.clientTls.enabled, stage := .ended, sent }
    ip port now
  exact h.append hcounts hadmitted hlink

/-- Each event keeps the records. -/
theorem Kept.step (h : s.Kept t₀) (e : Event) : (s.step e).Kept t₀ := by
  cases e with
  | arrive peer now =>
    -- a link that the check in front turns away is decided about before any of its steps
    obtain ⟨hcounts, hlink⟩ := s.gateway.counts_accept peer now
    by_cases hallow : s.gateway.table.ledger.wouldAllow peer.host.text = true
    · rw [if_pos hallow] at hcounts
      rw [hallow] at hlink
      have hnew := h.append (p := ⟨_, none⟩) hcounts rfl hlink
      rw [List.append_nil] at hnew
      simp only [Turnstile.step, if_pos hallow]
      exact hnew
    · rw [if_neg hallow] at hcounts
      rw [Bool.eq_false_iff.mpr hallow] at hlink
      have hnew := h.append (p := ⟨_, some .turnedAway⟩) hcounts rfl hlink
      rw [List.append_nil] at hnew
      simp only [Turnstile.step, if_neg hallow]
      exact hnew
  | act i a => exact h.onPassage i a
  | connect ip port ownAddress reach fault now =>
    simp only [Turnstile.step]
    split
    · exact h.enrollOutbound ip port _ now
    · exact h
    · exact h
  | command d now command =>
    -- no command inserts a session; the one that dials is the event `connect`
    refine h.other (s.gateway.counts_execute d now command) ?_
    cases command with
    | terminate id => rfl
    | _ => rfl
  | sweep now => exact h.other (s.gateway.counts_sweep now) rfl
  | record id temperature now => exact h.other (s.gateway.counts_record id temperature now) rfl
  | store answers now => exact h.same (s.gateway.counts_store answers now)
  | stop => exact h.same s.gateway.counts_stop
  | close => exact h.other s.gateway.counts_clear rfl

theorem Kept.run (h : s.Kept t₀) (events : List Event) : (s.run events).Kept t₀ := by
  induction events generalizing s with
  | nil => exact h
  | cons e events ih => exact ih (h.step e)

theorem kept_start {c : Config} (h : c.metrics.enabled = true) :
    (start c).Kept (Gateway.ofConfig c).table := by
  refine ⟨rfl, ⟨{}, ?_, rfl, rfl, rfl, fun _ => rfl⟩, rfl, ?_⟩
  · show (if c.metrics.enabled then some ({} : Metrics) else none) = _
    rw [if_pos h]
  · intro p hp
    cases hp

/-! ## The account -/

/-- **Every link is counted once.** With metrics on, after any events: the sessions that were counted
are the inserts that were successful, and the links that were admitted; the refusals counted under a
reason are the links that were refused for it; a link is counted nowhere until it is decided what
becomes of it, and from then on once, as admitted or under one of three reasons; the sessions counted
as reaped are those that sweeps have taken out; and the gauge shows how many sessions there are,
which are those that were admitted and have not left. -/
theorem links_accounted (c : Config) (h : c.metrics.enabled = true) (events : List Event) :
    let t₀ := (Gateway.ofConfig c).table
    let s := (start c).run events
    s.gateway.table = t₀.run s.calls
      ∧ ∃ m, s.gateway.metrics = some m
        ∧ m.sessionsTotal = t₀.admissions s.calls
        ∧ m.sessionsTotal = admitted s.passages
        ∧ (∀ reason, m.refused reason = refused reason s.passages)
        ∧ (∀ p ∈ s.passages, p.link.undecided = true → p.isAdmitted = false ∧ p.reason? = none)
        ∧ (∀ p ∈ s.passages, p.link.undecided = false →
          (p.isAdmitted = true ∧ p.reason? = none) ∨ (p.isAdmitted = false
            ∧ ∃ reason ∈ ["admission", "handshake", "duplicate_port"], p.reason? = some reason))
        ∧ m.sessionsReaped = t₀.evictions s.calls
        ∧ m.sessionsActive = s.gateway.table.activeCount
        ∧ s.gateway.table.activeCount + t₀.departures s.calls = m.sessionsTotal := by
  intro t₀ s
  obtain ⟨htable, ⟨m, hm, hactive, htotal, hreaped, hrefused⟩, hagree, hdecided⟩ :=
    (kept_start h).run events
  refine ⟨htable, m, hm, htotal, htotal.trans hagree, hrefused, ?_, ?_, hreaped, hactive, ?_⟩
  · -- as long as a link is undecided it is in neither count
    intro p hp hundecided
    have hnone := hdecided p hp
    rw [hundecided] at hnone
    have hopen : p.fate = none := Option.isNone_iff_eq_none.mp hnone.symm
    rw [Passage.isAdmitted, Passage.reason?, hopen]
    exact ⟨rfl, rfl⟩
  · -- and after that it has a fate, which is counted in one place
    intro p hp hover
    have hsome := hdecided p hp
    rw [hover] at hsome
    rcases hfate : p.fate with _ | fate
    · rw [hfate] at hsome
      cases hsome
    · rw [Passage.isAdmitted, Passage.reason?, hfate]
      exact fate.counted_once
  · -- the table counts its sessions in the roster, and the census holds these against the calls
    have hcounted : (t₀.run s.calls).activeCount = (t₀.run s.calls).sessions.length :=
      ((Table.balanced_fresh _ _ _).run s.calls).counted
    have hcensus := t₀.length_sessions_run s.calls
    have hempty : t₀.sessions.length = 0 := rfl
    rw [hempty, Nat.zero_add] at hcensus
    calc s.gateway.table.activeCount + t₀.departures s.calls
        = (t₀.run s.calls).activeCount + t₀.departures s.calls := by rw [← htable]
      _ = (t₀.run s.calls).sessions.length + t₀.departures s.calls := by rw [hcounted]
      _ = t₀.admissions s.calls := hcensus
      _ = m.sessionsTotal := htotal.symm

/-- Of three nodes behind one address the first hangs up before it has introduced itself, and the
third has the port of the second, which stays until a sweep finds it idle. -/
theorem links_accounted_until_sweep :
    let c : Config := { metrics := { enabled := true } }
    let peer : Net.SocketAddress := ⟨.v4 .loopback, 0, 50000⟩
    let node : List UInt8 := [7, 0, 0, 0] ++ [49] ++ List.replicate 15 0 ++ [34, 34, 0, 0]
    let events : List Event := [.arrive peer ⟨0, 0⟩, .arrive peer ⟨1, 1⟩, .arrive peer ⟨2, 2⟩,
      .act 0 .hangUp, .act 1 .secured, .act 1 (.hear node), .act 1 (.enroll ⟨3, 3⟩),
      .act 2 .secured, .act 2 (.hear node), .act 2 (.enroll ⟨4, 4⟩), .sweep ⟨3000000, 3000000⟩]
    let s := (start c).run events
    c.metrics.enabled = true
      ∧ s.passages.map (·.reason?) = [some "handshake", none, some "duplicate_port"]
      ∧ ∃ m, s.gateway.metrics = some m ∧ m.refused "handshake" = 1 ∧ m.refused "duplicate_port" = 1
        ∧ m.refused "admission" = 0 ∧ m.sessionsTotal = 1 ∧ m.sessionsReaped = 1
        ∧ m.sessionsActive = 0 := by
  intro c peer node events s
  obtain ⟨-, m, hm, htotal, -, hrefused, -, -, hreaped, hactive, -⟩ := links_accounted c rfl events
  refine ⟨rfl, by decide +kernel, m, hm, ?_, ?_, ?_, ?_, ?_, ?_⟩
  · exact (hrefused "handshake").trans (by decide +kernel)
  · exact (hrefused "duplicate_port").trans (by decide +kernel)
  · exact (hrefused "admission").trans (by decide +kernel)
  · exact htotal.trans (by decide +kernel)
  · exact hreaped.trans (by decide +kernel)
  · exact hactive.trans (by decide +kernel)

end Turnstile

end SensorGateway
