import SensorGateway.Proofs.Gateway.Steps
import SensorGateway.Proofs.Session.Tickets
import SensorGateway.Proofs.Session.Traffic

/-!
A gateway with its links, step by step.

`Site` is a gateway with the loop that accepts links and the tasks of the links that came in, any
number of them. Each event is one step of one of them, one thing that a node does, a call of the
reaper or of an operator, or the raising of the stop flag. An operation of the table that one of
them calls is in flight until it is over, and takes its steps as events of their own. So the lists
of events are the orders of steps, and the clear may fall anywhere into the handshake and the insert
of a link.

A task does to its link what the link functions of the gateway do, and calls the same operations of
the table. `run_enroll` and `run_gone` say so for the two that need the table: where nothing comes
between their steps, they end as `Gateway.enrollInbound`, `Gateway.hangUp` and `Gateway.breakDown`
do.
-/

set_option autoImplicit false

namespace SensorGateway

/-! ## Events and runs -/

/-- Where the loop that accepts links stands. -/
inductive Accepting where
  /-- It is to look at the stop flag. -/
  | looking
  /-- It waits for a link or for the flag. -/
  | waiting
  /-- It has seen the flag. -/
  | closing
  /-- It clears the table, by an operation in flight. -/
  | clearing (op : Nat)
  | returned

/-- The task of a link. -/
inductive Task where
  /-- It has not begun. -/
  | arrived (peer : Net.SocketAddress)
  | linked (l : Link)
  /-- Its session is being inserted, by an operation in flight. -/
  | enrolling (l : Link) (ticket : Ticket) (op : Nat)
  /-- Its node is gone and its session is being removed, by an operation in flight. -/
  | parting (l : Link) (op : Nat)

/-- Whether a task has ended. -/
def Task.isOver : Task → Bool
  | linked l => l.isClosed
  | _ => false

/-- What is done to the sessions from elsewhere. -/
inductive Errand where
  | sweep (steady timeout : Nat)
  | terminate (id : SensorId)
  | record (id : SensorId) (reading : Reading) (now : Moment)

/-- The operation of an errand. -/
def Errand.operation : Errand → Table.Operation
  | sweep steady timeout => .reapIdle steady timeout
  | terminate id => .remove id
  | record id reading now => .updateReading id reading now

/-- **A gateway with its accepting loop and the tasks of its links.** -/
structure Site where
  config : Config
  traffic : Table.Traffic
  stopped : Bool := false
  nextTicket : Ticket := 0
  loop : Accepting := .looking
  tasks : List Task := []
  /-- The tickets of the sessions that were entered since the loop has taken all sessions out, the
  latest first. -/
  late : List Ticket := []

namespace Site

/-- What can happen to a link without the session table. -/
inductive LinkEvent where
  | secured
  | bytes (chunk : List UInt8)
  | expire (now : Moment)
  | attend

inductive Event where
  /-- The stop flag is raised. -/
  | stop
  /-- The loop looks at the flag. -/
  | look
  /-- The loop accepts a link and starts its task. -/
  | arrive (peer : Net.SocketAddress)
  | acceptFails
  /-- The loop is woken by the flag. -/
  | wake
  /-- The loop begins to clear the table. -/
  | close
  /-- The table is cleared, and the loop returns. -/
  | cleared
  /-- A task begins. -/
  | begin (i : Nat) (now : Moment)
  | link (i : Nat) (e : LinkEvent)
  /-- The node of a link has closed its end, or the socket has failed. -/
  | gone (i : Nat) (fault : Option OsFault)
  /-- A task begins to insert its session. -/
  | enroll (i : Nat) (now : Moment)
  | enrolled (i : Nat)
  | parted (i : Nat)
  | errand (e : Errand)
  /-- An operation in flight takes its next step. -/
  | advance (j : Nat)

/-- A gateway that listens on a port, before its first link. -/
def start (c : Config) (port : UInt16) : Site where
  config := c
  traffic := { table := (Gateway.ofConfig c).table.setRunningPort port }

/-- The gateway as its tasks see it. -/
def gateway (s : Site) : Gateway :=
  { Gateway.ofConfig s.config with
    table := s.traffic.table, stopped := s.stopped, nextTicket := s.nextTicket }

/-- Calls an operation of the table. -/
def call (s : Site) (op : Table.Operation) : Site :=
  { s with traffic := s.traffic.move (.begin op) }

/-- Puts a task in its place. -/
def put (s : Site) (i : Nat) (task : Task) : Site := { s with tasks := s.tasks.set i task }

/-- The number of the next operation. -/
def nextOp (s : Site) : Nat := s.traffic.flight.length

/-- A link after an event. -/
def heard (g : Gateway) (l : Link) : LinkEvent → Link
  | .secured => Gateway.secured l
  | .bytes chunk => (g.hear l chunk).1
  | .expire now => (g.expire l now).1
  | .attend => (g.attend l).1

/-- What the gateway does when the node of a link is gone. -/
def fails (g : Gateway) (l : Link) : Option OsFault → Gateway.LinkStep
  | none => g.hangUp l
  | some fault => g.breakDown l fault

/-- The node of a link is gone. Where the link is watched its session is to be removed. -/
def goneLink (s : Site) (i : Nat) (l : Link) (fault : Option OsFault) : Site :=
  match l.stage with
  | .watching _ ticket => (s.put i (.parting l s.nextOp)).call (.removeLink ticket)
  | _ => s.put i (.linked (fails s.gateway l fault).1)

/-- A node that has introduced itself is given a ticket, and its session is to be inserted. -/
def enrollLink (s : Site) (i : Nat) (l : Link) (now : Moment) : Site :=
  match l.stage with
  | .introduced record =>
    let session := Gateway.inboundSession l record s.nextTicket now
    { (s.put i (.enrolling l s.nextTicket s.nextOp)).call (.insert session now) with
      nextTicket := s.nextTicket + 1 }
  | _ => s

/-- A link after its insert. -/
def enrolledLink (l : Link) (ticket : Ticket) : Option SensorId → Link
  | some id => { l with stage := .watching id ticket }
  | none => l.closed

/-- Which sessions were entered since the clear, after a step of an operation. -/
def lateAfter (t : Table) (p : Table.Progress) (late : List Ticket) : List Ticket :=
  match p with
  | .begun .clear => []
  | _ => ((t.enters p).bind Session.link).toList ++ late

/-- The site after one event. An event for which the loop, the task or the operation is not ready is
none. -/
def step (s : Site) : Event → Site
  | .stop => { s with stopped := true }
  | .look =>
    match s.loop with
    | .looking => { s with loop := if s.stopped then .closing else .waiting }
    | _ => s
  | .arrive peer =>
    match s.loop with
    | .waiting => { s with loop := .looking, tasks := s.tasks ++ [.arrived peer] }
    | _ => s
  | .acceptFails =>
    match s.loop with
    | .waiting => { s with loop := .looking }
    | _ => s
  | .wake =>
    match s.loop with
    | .waiting => { s with loop := if s.stopped then .looking else .waiting }
    | _ => s
  | .close =>
    match s.loop with
    | .closing => { s.call .clear with loop := .clearing s.nextOp }
    | _ => s
  | .cleared =>
    match s.loop with
    | .clearing j =>
      match s.traffic.flight[j]? with
      | some (.finished _) => { s with loop := .returned }
      | _ => s
    | _ => s
  | .begin i now =>
    match s.tasks[i]? with
    | some (.arrived peer) => s.put i (.linked (s.gateway.accept peer now).1)
    | _ => s
  | .link i e =>
    match s.tasks[i]? with
    | some (.linked l) => s.put i (.linked (heard s.gateway l e))
    | _ => s
  | .gone i fault =>
    match s.tasks[i]? with
    | some (.linked l) => s.goneLink i l fault
    | _ => s
  | .enroll i now =>
    match s.tasks[i]? with
    | some (.linked l) => s.enrollLink i l now
    | _ => s
  | .enrolled i =>
    match s.tasks[i]? with
    | some (.enrolling l ticket j) =>
      match s.traffic.flight[j]? with
      | some (.finished entered) => s.put i (.linked (enrolledLink l ticket entered))
      | _ => s
    | _ => s
  | .parted i =>
    match s.tasks[i]? with
    | some (.parting l j) =>
      match s.traffic.flight[j]? with
      | some (.finished _) => s.put i (.linked l.closed)
      | _ => s
    | _ => s
  | .errand e => s.call e.operation
  | .advance j =>
    match s.traffic.flight[j]? with
    | some p =>
      { s with
        traffic := s.traffic.move (.advance j)
        late := lateAfter s.traffic.table p s.late }
    | none => s

/-- **The site after a list of events,** the first one first. -/
def run (s : Site) (events : List Event) : Site := events.foldl step s

/-! ## Operations that nothing comes between -/

/-- What a step of an operation in flight does to the site. -/
theorem step_advance {s : Site} {j : Nat} {p : Table.Progress}
    (hp : s.traffic.flight[j]? = some p) :
    s.step (.advance j) =
      { s with
        traffic := s.traffic.move (.advance j)
        late := lateAfter s.traffic.table p s.late } := by
  simp only [step, hp]

/-- The operation that was called last goes on alone to its end. -/
theorem run_undisturbed {p : Table.Progress} {t t' : Table} {entered : Option SensorId}
    (h : Table.Undisturbed p t entered t') {s : Site} {flight : List Table.Progress}
    (htable : s.traffic.table = t) (hflight : s.traffic.flight = flight ++ [p]) :
    ∃ n, (s.run (List.replicate n (.advance flight.length))).traffic.table = t'
      ∧ (s.run (List.replicate n (.advance flight.length))).traffic.flight
          = flight ++ [.finished entered]
      ∧ (s.run (List.replicate n (.advance flight.length))).tasks = s.tasks := by
  -- one event for each step that is left, with the operation at the end of the list all the time
  induction h generalizing s with
  | finished entered t => exact ⟨0, htable, hflight, rfl⟩
  | @step p t t' entered h ih =>
    have hp : s.traffic.flight[flight.length]? = some p := by
      rw [hflight, List.getElem?_concat_length]
    have hnext : (s.step (.advance flight.length)).traffic.flight
        = flight ++ [(t.advance p).1] := by
      rw [step_advance hp, Table.Traffic.move_advance hp, hflight, htable]
      simp
    have htaken : (s.step (.advance flight.length)).traffic.table = (t.advance p).2 := by
      rw [step_advance hp, Table.Traffic.move_advance hp, htable]
    obtain ⟨n, hend, hover, htasks⟩ := ih htaken hnext
    have hsame : (s.step (.advance flight.length)).tasks = s.tasks := by
      rw [step_advance hp]
    exact ⟨n + 1, hend, hover, htasks.trans hsame⟩

/-- The operation that was called last, if it goes on alone, is the operation of the table. -/
theorem run_called {s s' : Site} {op : Table.Operation}
    (htable : s'.traffic.table = s.traffic.table)
    (hflight : s'.traffic.flight = s.traffic.flight ++ [.begun op]) :
    ∃ n, (s'.run (List.replicate n (.advance s.nextOp))).traffic.table = s.traffic.table.apply op
      ∧ (s'.run (List.replicate n (.advance s.nextOp))).traffic.flight[s.nextOp]?
          = some (.finished (s.traffic.table.numberGiven op))
      ∧ (s'.run (List.replicate n (.advance s.nextOp))).tasks = s'.tasks := by
  obtain ⟨n, hend, hover, htasks⟩ :=
    run_undisturbed (s.traffic.table.undisturbed_apply op) htable hflight
  refine ⟨n, hend, ?_, htasks⟩
  rw [nextOp, hover, List.getElem?_concat_length]

/-! ## What the tasks do is what the gateway does -/

/-- What enrolling comes to, told by the insert. -/
theorem enrollInbound_spec (g : Gateway) {l : Link} {record : Handshake.Record}
    (hstage : l.stage = .introduced record) (now : Moment) :
    let session := Gateway.inboundSession l record g.nextTicket now
    (g.enrollInbound l now).1
        = enrolledLink l g.nextTicket (g.table.insert session now).1.toOption
      ∧ (g.enrollInbound l now).2.1.table = (g.table.insert session now).2 := by
  intro session
  simp only [Gateway.enrollInbound, hstage, Gateway.takeTicket]
  rcases hinsert : g.table.insert session now with ⟨e | id, t⟩
  · exact ⟨rfl, rfl⟩
  · exact ⟨rfl, rfl⟩

/-- What the loss of a watched node comes to, told by the removal. -/
theorem fails_spec (g : Gateway) {l : Link} {sensor : SensorId} {ticket : Ticket}
    (hstage : l.stage = .watching sensor ticket) (fault : Option OsFault) :
    (fails g l fault).1 = l.closed
      ∧ (fails g l fault).2.1.table = (g.table.removeLink ticket).2 := by
  have hleave := g.leave_spec l sensor ticket
  rcases fault with _ | fault
  · simp only [fails, Gateway.hangUp, hstage]
    exact ⟨hleave.1, hleave.2.1⟩
  · simp only [fails, Gateway.breakDown, hstage]
    exact ⟨hleave.1, hleave.2.1⟩

/-- A task calls its operation first and looks at the result last. -/
theorem run_between (s : Site) (first last : Event) (events : List Event) :
    s.run (first :: (events ++ [last])) = ((s.step first).run events).step last := by
  simp only [run, List.foldl_cons, List.foldl_append, List.foldl_nil]

/-- The task of a finished insert goes on with what the insert has answered. -/
theorem step_enrolled {s : Site} {i j : Nat} {l : Link} {ticket : Ticket}
    {entered : Option SensorId} (htask : s.tasks[i]? = some (.enrolling l ticket j))
    (hover : s.traffic.flight[j]? = some (.finished entered)) :
    s.step (.enrolled i) = s.put i (.linked (enrolledLink l ticket entered)) := by
  simp only [step, htask, hover]

/-- The task of a finished removal closes its link. -/
theorem step_parted {s : Site} {i j : Nat} {l : Link} {entered : Option SensorId}
    (htask : s.tasks[i]? = some (.parting l j))
    (hover : s.traffic.flight[j]? = some (.finished entered)) :
    s.step (.parted i) = s.put i (.linked l.closed) := by
  simp only [step, htask, hover]

/-- **An insert that nothing comes between ends as the gateway's.** -/
theorem run_enroll {s : Site} {i : Nat} {l : Link} (htask : s.tasks[i]? = some (.linked l))
    {record : Handshake.Record} (hstage : l.stage = .introduced record) (now : Moment) :
    ∃ n, let s' := s.run (.enroll i now :: (List.replicate n (.advance s.nextOp) ++ [.enrolled i]))
      s'.traffic.table = (s.gateway.enrollInbound l now).2.1.table
        ∧ s'.tasks = s.tasks.set i (.linked (s.gateway.enrollInbound l now).1) := by
  obtain ⟨hlink, htable⟩ := enrollInbound_spec s.gateway hstage now
  have hi : i < s.tasks.length := (List.getElem?_eq_some_iff.mp htask).1
  have hcall : s.step (.enroll i now) = s.enrollLink i l now := by simp only [step, htask]
  simp only [enrollLink, hstage] at hcall
  -- the call itself leaves the table as it is and puts the insert behind what is in flight
  have hold : (s.step (.enroll i now)).traffic.table = s.traffic.table :=
    congrArg (·.traffic.table) hcall
  have hbegun : (s.step (.enroll i now)).traffic.flight = s.traffic.flight
      ++ [.begun (.insert (Gateway.inboundSession l record s.nextTicket now) now)] :=
    congrArg (·.traffic.flight) hcall
  obtain ⟨n, hend, hover, htasks⟩ := run_called hold hbegun
  have hput : (s.step (.enroll i now)).tasks
      = s.tasks.set i (.enrolling l s.nextTicket s.nextOp) := congrArg (·.tasks) hcall
  rw [hput] at htasks
  refine ⟨n, ?_⟩
  intro s'
  have hlast : s' = _ := run_between s (.enroll i now) (.enrolled i) _
  rw [step_enrolled (by rw [htasks, List.getElem?_set_self hi]) hover] at hlast
  rw [hlast]
  refine ⟨hend.trans htable.symm, ?_⟩
  rw [hlink]
  show List.set _ i _ = _
  rw [htasks, List.set_set]
  rfl

/-- **A removal that nothing comes between ends as the gateway's.** -/
theorem run_gone {s : Site} {i : Nat} {l : Link} (htask : s.tasks[i]? = some (.linked l))
    {sensor : SensorId} {ticket : Ticket} (hstage : l.stage = .watching sensor ticket)
    (fault : Option OsFault) :
    ∃ n, let s' := s.run (.gone i fault :: (List.replicate n (.advance s.nextOp) ++ [.parted i]))
      s'.traffic.table = (fails s.gateway l fault).2.1.table
        ∧ s'.tasks = s.tasks.set i (.linked (fails s.gateway l fault).1) := by
  obtain ⟨hlink, htable⟩ := fails_spec s.gateway hstage fault
  have hi : i < s.tasks.length := (List.getElem?_eq_some_iff.mp htask).1
  have hcall : s.step (.gone i fault) = s.goneLink i l fault := by simp only [step, htask]
  simp only [goneLink, hstage] at hcall
  -- as for an insert, the call leaves the table as it is
  have hold : (s.step (.gone i fault)).traffic.table = s.traffic.table :=
    congrArg (·.traffic.table) hcall
  have hbegun : (s.step (.gone i fault)).traffic.flight
      = s.traffic.flight ++ [.begun (.removeLink ticket)] :=
    congrArg (·.traffic.flight) hcall
  obtain ⟨n, hend, hover, htasks⟩ := run_called hold hbegun
  have hput : (s.step (.gone i fault)).tasks = s.tasks.set i (.parting l s.nextOp) :=
    congrArg (·.tasks) hcall
  rw [hput] at htasks
  refine ⟨n, ?_⟩
  intro s'
  have hlast : s' = _ := run_between s (.gone i fault) (.parted i) _
  rw [step_parted (by rw [htasks, List.getElem?_set_self hi]) hover] at hlast
  rw [hlast]
  refine ⟨hend.trans htable.symm, ?_⟩
  rw [hlink]
  show List.set _ i _ = _
  rw [htasks, List.set_set]

end Site

end SensorGateway
