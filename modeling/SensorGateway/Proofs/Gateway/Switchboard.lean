import SensorGateway.Proofs.Gateway.Steps
import SensorGateway.Proofs.Session.Departures

/-!
Links and the sessions that own them.

`Switchboard` is a gateway with the links that it makes. A link is made, given to one session, and
inserted with it; from then on the session is in the table and its link is watched, until one of
several things takes the session out: an operator, the reaper, the end of the gateway, or the task
of the link itself, whose node is gone. They do not know of each other, and sensor identifiers are
given out again.

`link_open_while_registered` says that this does no harm. An inserted link is open exactly while its
session is registered; no two sessions have one link; a link is closed once, by the first operation
that reaches its session; and a task that comes too late finds nothing and leaves the table alone,
whoever has the number of its session by then. All of it rests on one count: the tickets that
registered sessions hold, those that were let go, and those that are not inserted yet are together
the tickets that were ever given out, each of them once.
-/

set_option autoImplicit false

namespace SensorGateway

/-! ## Events and runs -/

/-- A session that owns a link. -/
def Session.owning (x : Session) (ticket : Ticket) : Session := { x with link := some ticket }

/-- **A gateway with the links that it has made.** -/
structure Switchboard where
  gateway : Gateway
  /-- The tickets of the links that no session has been inserted with. -/
  spare : List Ticket := []
  /-- The links of the sessions that were admitted, each in the hands of its task. -/
  links : List Link := []

namespace Switchboard

inductive Event where
  /-- A link is made. -/
  | make
  /-- A session that owns a spare link is inserted. If it is admitted, its task watches the link. -/
  | insert (ticket : Ticket) (x : Session) (l : Link) (now : Moment)
  /-- Any other operation of the table is called. -/
  | operate (op : Table.Operation)
  /-- The node of a link closes its end. -/
  | hangUp (i : Nat)
  /-- The socket of a link fails. -/
  | breakDown (i : Nat) (fault : OsFault)
  /-- A task looks whether its link is to be closed. -/
  | attend (i : Nat)
  /-- The stop flag is raised. -/
  | stop

/-- A gateway before its first link. -/
def start (c : Config) : Switchboard := { gateway := Gateway.ofConfig c }

/-- Replaces the table. -/
def setTable (s : Switchboard) (t : Table) : Switchboard :=
  { s with gateway := { s.gateway with table := t } }

/-- A step of the task of a link. -/
def onLink (s : Switchboard) (i : Nat) (f : Gateway → Link → Gateway.LinkStep) : Switchboard :=
  match s.links[i]? with
  | none => s
  | some l => { s with gateway := (f s.gateway l).2.1, links := s.links.set i (f s.gateway l).1 }

/-- The links after an insert: an admitted session has its link watched. -/
def watch (links : List Link) (l : Link) (ticket : Ticket) :
    Except InsertError SensorId → List Link
  | .ok id => links ++ [{ l with stage := .watching id ticket }]
  | .error _ => links

/-- Inserts a session that owns a spare link. -/
def enter (s : Switchboard) (ticket : Ticket) (x : Session) (l : Link) (now : Moment) :
    Switchboard :=
  let (answer, t) := s.gateway.table.insert (x.owning ticket) now
  { s.setTable t with spare := s.spare.erase ticket, links := watch s.links l ticket answer }

/-- **The switchboard after one event.** A link that is not spare cannot be inserted. -/
def step (s : Switchboard) : Event → Switchboard
  | .make =>
    { s with gateway := s.gateway.takeTicket.2, spare := s.spare ++ [s.gateway.takeTicket.1] }
  | .insert ticket x l now =>
    if ticket ∈ s.spare then s.enter ticket x l now else s
  | .operate (.insert ..) => s
  | .operate op => s.setTable (s.gateway.table.apply op)
  | .hangUp i => s.onLink i Gateway.hangUp
  | .breakDown i fault => s.onLink i fun g l => g.breakDown l fault
  | .attend i => s.onLink i Gateway.attend
  | .stop => { s with gateway := s.gateway.stop }

/-- **The switchboard after a list of events,** the first one first. -/
def run (s : Switchboard) (events : List Event) : Switchboard := events.foldl step s

/-! ## What an event does to the table -/

/-- The operation of the table that an event calls. -/
def call? (s : Switchboard) : Event → Option Table.Operation
  | .insert ticket x _ now =>
    if ticket ∈ s.spare then some (.insert (x.owning ticket) now) else none
  | .operate (.insert ..) => none
  | .operate op => some op
  | .hangUp i => s.links[i]?.bind Link.parting?
  | .breakDown i _ => s.links[i]?.bind Link.parting?
  | _ => none

/-- **The links that an event closes.** -/
def closes (s : Switchboard) (e : Event) : List Ticket :=
  (s.call? e).toList.flatMap s.gateway.table.closes

/-- An event that calls an operation without a session of its own, and makes no link. -/
structure Still (s : Switchboard) (e : Event) : Prop where
  table : (s.step e).gateway.table = s.gateway.table.run (s.call? e).toList
  spare : (s.step e).spare = s.spare
  nextTicket : (s.step e).gateway.nextTicket = s.gateway.nextTicket
  brings : ∀ op, s.call? e = some op → (Table.Progress.begun op).brings? = none

variable {s : Switchboard}

theorem brings?_parting {l : Link} {op : Table.Operation} (h : l.parting? = some op) :
    (Table.Progress.begun op).brings? = none := by
  unfold Link.parting? at h
  split at h
  · cases h
    rfl
  · cases h

/-- A step of a task is still if all it does to the gateway is to call an operation. -/
theorem still_onLink {e : Event} {i : Nat} {f : Gateway → Link → Gateway.LinkStep}
    {parting : Link → Option Table.Operation} (hstep : s.step e = s.onLink i f)
    (hcall : s.call? e = s.links[i]?.bind parting)
    (htable : ∀ l, (f s.gateway l).2.1.table = s.gateway.table.run (parting l).toList)
    (hnext : ∀ l, (f s.gateway l).2.1.nextTicket = s.gateway.nextTicket)
    (hbrings : ∀ l op, parting l = some op → (Table.Progress.begun op).brings? = none) :
    s.Still e := by
  -- a task that is not there calls nothing and does nothing
  rcases hi : s.links[i]? with _ | l
  · have hsame : s.step e = s := by rw [hstep, onLink, hi]
    rw [hi, Option.bind_none] at hcall
    refine ⟨?_, congrArg spare hsame, congrArg (·.gateway.nextTicket) hsame, fun op hop => ?_⟩
    · rw [hsame, hcall]
      rfl
    · rw [hcall] at hop
      cases hop
  · have hmoved : s.step e = { s with
        gateway := (f s.gateway l).2.1, links := s.links.set i (f s.gateway l).1 } := by
      rw [hstep, onLink, hi]
    rw [hi, Option.bind_some] at hcall
    refine ⟨?_, ?_, ?_, fun op hop => hbrings l op (hcall ▸ hop)⟩
    · rw [hmoved, hcall]
      exact htable l
    · rw [hmoved]
    · rw [hmoved]
      exact hnext l

/-- A node that hangs up makes its task call what a link that parts calls. -/
theorem still_hangUp (s : Switchboard) (i : Nat) : s.Still (.hangUp i) :=
  still_onLink rfl rfl (fun l => (s.gateway.hangUp_spec l).1) (fun l => (s.gateway.hangUp_spec l).2)
    fun _ _ => brings?_parting

/-- A socket that fails does the same to the table. -/
theorem still_breakDown (s : Switchboard) (i : Nat) (fault : OsFault) :
    s.Still (.breakDown i fault) := by
  have hstep : s.step (.breakDown i fault) = s.onLink i fun g l => g.breakDown l fault := rfl
  refine still_onLink hstep rfl (fun l => ?_) (fun l => ?_) fun _ _ => brings?_parting
  · exact (s.gateway.breakDown_spec l fault).1.trans (s.gateway.hangUp_spec l).1
  · exact (s.gateway.breakDown_spec l fault).2.1.trans (s.gateway.hangUp_spec l).2

theorem still_attend (s : Switchboard) (i : Nat) : s.Still (.attend i) := by
  have hcall : s.call? (.attend i) = s.links[i]?.bind fun _ => none := by
    rw [Option.bind_fun_none]
    rfl
  refine still_onLink rfl hcall (fun l => (s.gateway.attend_spec l).1)
    (fun l => (s.gateway.attend_spec l).2) fun _ _ hop => ?_
  cases hop

/-- An operation from elsewhere leaves the links to their tasks. -/
theorem still_operate {op : Table.Operation} (h : (Table.Progress.begun op).brings? = none) :
    s.Still (.operate op) := by
  cases op with
  | insert x now => cases h
  | remove id => exact ⟨rfl, rfl, rfl, fun op hop => by cases hop; rfl⟩
  | removeLink ticket => exact ⟨rfl, rfl, rfl, fun op hop => by cases hop; rfl⟩
  | updateReading id reading now => exact ⟨rfl, rfl, rfl, fun op hop => by cases hop; rfl⟩
  | reapIdle steady timeout => exact ⟨rfl, rfl, rfl, fun op hop => by cases hop; rfl⟩
  | clear => exact ⟨rfl, rfl, rfl, fun op hop => by cases hop; rfl⟩
  | setRunningPort port => exact ⟨rfl, rfl, rfl, fun op hop => by cases hop; rfl⟩

/-! ## The invariant -/

/-- **Every ticket is in one place.** -/
structure Tied (s : Switchboard) : Prop where
  tickets : (s.gateway.table.tickets ++ s.spare).Perm (List.range s.gateway.nextTicket)
  linked : ∀ x ∈ s.gateway.table.sessions, ∃ k, x.link = some k

theorem tied_start (c : Config) : (start c).Tied where
  tickets := List.Perm.refl []
  linked := by
    intro x hx
    cases hx

theorem linked_apply {t : Table} (h : ∀ x ∈ t.sessions, ∃ k, x.link = some k)
    {op : Table.Operation} (hop : ∀ x now, op = .insert x now → ∃ k, x.link = some k) :
    ∀ x ∈ (t.apply op).sessions, ∃ k, x.link = some k := by
  refine Table.forall_sessions_apply (fun hsame hx => ?_) h hop
  obtain ⟨k, hk⟩ := hx
  exact ⟨k, (congrArg Session.link hsame).symm.trans hk⟩

/-- An event without a session of its own moves tickets within the table only. -/
theorem Tied.still (h : s.Tied) {e : Event} (hs : s.Still e) : (s.step e).Tied := by
  rcases hcall : s.call? e with _ | op
  · have htable : (s.step e).gateway.table = s.gateway.table := by
      rw [hs.table, hcall]
      rfl
    refine ⟨?_, ?_⟩
    · rw [htable, hs.spare, hs.nextTicket]
      exact h.tickets
    · rw [htable]
      exact h.linked
  · have htable : (s.step e).gateway.table = s.gateway.table.apply op := by
      rw [hs.table, hcall]
      rfl
    have hnone := hs.brings op hcall
    refine ⟨?_, ?_⟩
    · have hmoved := s.gateway.table.tickets_apply op
      have hempty : (Table.Progress.begun op).tickets = [] := by
        rw [Table.Progress.tickets_eq, hnone]
        rfl
      rw [hempty, List.append_nil] at hmoved
      rw [htable, hs.spare, hs.nextTicket]
      exact (hmoved.append_right s.spare).trans h.tickets
    · rw [htable]
      apply linked_apply h.linked
      intro x now hop
      rw [hop] at hnone
      cases hnone

/-- A link that is made gets a ticket of its own. -/
theorem Tied.make (h : s.Tied) : (s.step .make).Tied := by
  refine ⟨?_, h.linked⟩
  show (s.gateway.table.tickets ++ (s.spare ++ [s.gateway.nextTicket])).Perm
    (List.range (s.gateway.nextTicket + 1))
  rw [List.range_succ, ← List.append_assoc]
  exact h.tickets.append_right _

/-- A link that is inserted is spare no more. -/
theorem Tied.insert (h : s.Tied) {ticket : Ticket} (hspare : ticket ∈ s.spare) (x : Session)
    (l : Link) (now : Moment) : (s.step (.insert ticket x l now)).Tied := by
  have hstep : s.step (.insert ticket x l now) = s.enter ticket x l now := by
    simp only [step, if_pos hspare]
  rw [hstep]
  refine ⟨?_, ?_⟩
  · have hmoved := s.gateway.table.tickets_apply (.insert (x.owning ticket) now)
    have hback : (s.gateway.table.tickets ++ [ticket] ++ s.spare.erase ticket).Perm
        (s.gateway.table.tickets ++ s.spare) := by
      rw [List.append_assoc]
      exact (List.perm_cons_erase hspare).symm.append_left _
    exact (hmoved.append_right _).trans (hback.trans h.tickets)
  · have howns : ∀ y now', Table.Operation.insert (x.owning ticket) now = .insert y now' →
        ∃ k, y.link = some k := by
      intro y now' hop
      cases hop
      exact ⟨ticket, rfl⟩
    exact linked_apply h.linked howns

/-- **One event more.** -/
theorem Tied.step (h : s.Tied) (e : Event) : (s.step e).Tied := by
  cases e with
  | make => exact h.make
  | insert ticket x l now =>
    by_cases hspare : ticket ∈ s.spare
    · exact h.insert hspare x l now
    · have hsame : s.step (.insert ticket x l now) = s := by
        simp only [Switchboard.step, if_neg hspare]
      rw [hsame]
      exact h
  | operate op =>
    rcases hbrings : (Table.Progress.begun op).brings? with _ | x
    · exact h.still (still_operate hbrings)
    · cases op with
      | insert y now => exact h
      | remove id => cases hbrings
      | removeLink ticket => cases hbrings
      | updateReading id reading now => cases hbrings
      | reapIdle steady timeout => cases hbrings
      | clear => cases hbrings
      | setRunningPort port => cases hbrings
  | hangUp i => exact h.still (still_hangUp s i)
  | breakDown i fault => exact h.still (still_breakDown s i fault)
  | attend i => exact h.still (still_attend s i)
  | stop => exact ⟨h.tickets, h.linked⟩

/-- **So every ticket is in one place after any events.** -/
theorem Tied.run (h : s.Tied) (events : List Event) : (s.run events).Tied := by
  induction events generalizing s with
  | nil => exact h
  | cons e rest ih => exact ih (h.step e)

/-! ## What follows from the count of tickets -/

/-- **An event does to the table what the operation that it calls does.** -/
theorem table_step (s : Switchboard) (e : Event) :
    (s.step e).gateway.table = s.gateway.table.run (s.call? e).toList := by
  cases e with
  | make => rfl
  | insert ticket x l now =>
    by_cases hspare : ticket ∈ s.spare
    · simp only [Switchboard.step, call?, if_pos hspare]
      rfl
    · simp only [Switchboard.step, call?, if_neg hspare]
      rfl
  | operate op => cases op <;> rfl
  | hangUp i => exact (still_hangUp s i).table
  | breakDown i fault => exact (still_breakDown s i fault).table
  | attend i => exact (still_attend s i).table
  | stop => rfl

/-- The record of closed links grows by what an event closes. -/
theorem released_step (s : Switchboard) (e : Event) :
    (s.step e).gateway.table.released = (s.closes e).reverse ++ s.gateway.table.released := by
  rw [table_step, closes]
  rcases s.call? e with _ | op
  · rfl
  · rw [Option.toList_some, List.flatMap_singleton]
    exact s.gateway.table.released_apply op

/-- **No link is opened again.** -/
theorem released_run (s : Switchboard) (events : List Event) :
    s.gateway.table.released <:+ (s.run events).gateway.table.released := by
  -- each event puts what it closes in front of what was closed before
  induction events generalizing s with
  | nil => exact List.suffix_refl _
  | cons e rest ih =>
    have hstep : s.gateway.table.released <:+ (s.step e).gateway.table.released := by
      rw [released_step]
      exact List.suffix_append _ _
    exact hstep.trans (ih (s.step e))

/-- No ticket is held twice, let go twice, or both. -/
theorem Tied.nodup (h : s.Tied) : s.gateway.table.tickets.Nodup :=
  (List.nodup_append.mp (h.tickets.nodup_iff.mpr List.nodup_range)).1

/-- A link that was let go is that of no registered session. -/
theorem Tied.gone (h : s.Tied) {k : Ticket} (hk : k ∈ s.gateway.table.released) :
    ∀ x ∈ s.gateway.table.sessions, x.link ≠ some k := by
  intro x hx hlink
  have hheld : k ∈ s.gateway.table.sessions.filterMap Session.link :=
    List.mem_filterMap.mpr ⟨x, hx, hlink⟩
  exact (List.nodup_append.mp h.nodup).2.2 k hheld k hk rfl

/-- **An inserted link is open exactly while its session is registered.** -/
theorem Tied.open_iff (h : s.Tied) {k : Ticket} (hmade : k < s.gateway.nextTicket)
    (hinserted : k ∉ s.spare) :
    k ∉ s.gateway.table.released ↔ ∃ x ∈ s.gateway.table.sessions, x.link = some k := by
  constructor
  · intro hopen
    have hplace : k ∈ s.gateway.table.tickets ++ s.spare :=
      h.tickets.mem_iff.mpr (List.mem_range.mpr hmade)
    rcases List.mem_append.mp hplace with hticket | hspare
    · rcases List.mem_append.mp hticket with hheld | hreleased
      · exact List.mem_filterMap.mp hheld
      · exact absurd hreleased hopen
    · exact absurd hspare hinserted
  · rintro ⟨x, hx, hlink⟩ hreleased
    exact h.gone hreleased x hx hlink

/-- **A link is open exactly while its session is registered.** For any settings, after any list of
events on a new gateway: a link that was inserted is open if and only if a registered session owns
it. Every registered session owns a link, and no two own the same. A link is closed at most once; an
event closes the links of the sessions that its operation reaches, and that of a session which it
turns away; and what is closed stays closed. A removal by a link that is closed changes nothing in
table and ledger, whatever number its session had, and so does the task of such a link when its node
leaves or its socket fails. A removal by a link that is open takes out its session and gives its
permit back, closes the link, and leaves everybody else as they are. -/
theorem link_open_while_registered (c : Config) (events : List Event) :
    let s := (start c).run events
    let t := s.gateway.table
    (∀ k < s.gateway.nextTicket, k ∉ s.spare →
        (k ∉ t.released ↔ ∃ x ∈ t.sessions, x.link = some k))
      ∧ (∀ x ∈ t.sessions, ∃ k, x.link = some k)
      ∧ (∀ k, t.sessions.countP (fun x => x.link == some k) ≤ 1)
      ∧ (∀ k, t.released.count k ≤ 1)
      ∧ (∀ e, (s.step e).gateway.table.released = (s.closes e).reverse ++ t.released)
      ∧ (∀ more, t.released <:+ (s.run more).gateway.table.released)
      ∧ (∀ k ∈ t.released, t.removeLink k = (none, t))
      ∧ (∀ i l sensor fault, ∀ k ∈ t.released,
          s.links[i]? = some l → l.stage = .watching sensor k →
            (s.step (.hangUp i)).gateway.table = t
              ∧ (s.step (.breakDown i fault)).gateway.table = t)
      ∧ ∀ x ∈ t.sessions, ∀ k, x.link = some k →
          ∃ front back, t.sessions = front ++ x :: back
            ∧ (t.removeLink k).1 = some (x.ended .disconnected)
            ∧ (t.removeLink k).2 =
                { t with
                  ledger := t.ledger.release x.address
                  roster := { t.roster with
                    sessions := front ++ back, activeCount := t.roster.activeCount - 1 }
                  released := k :: t.released } := by
  intro s t
  have h : s.Tied := (tied_start c).run events
  have hheld := (List.nodup_append.mp h.nodup).1
  have hreleased := (List.nodup_append.mp h.nodup).2.1
  refine ⟨fun k hmade hinserted => h.open_iff hmade hinserted, h.linked, fun k => ?_, fun k => ?_,
    released_step s, released_run s, fun k hk => Table.removeLink_of_gone (h.gone hk),
    fun i l sensor fault k hk hi hstage => ?_, fun x hx k hlink => ?_⟩
  · rw [← List.count_filterMap]
    exact List.nodup_iff_count.mp hheld k
  · exact List.nodup_iff_count.mp hreleased k
  · have hparting : s.links[i]?.bind Link.parting? = some (.removeLink k) := by
      simp only [hi, Option.bind_some, Link.parting?, hstage]
    -- the operation of the task is a removal by its ticket, and nobody has it any more
    have hlate : t.run [.removeLink k] = t :=
      congrArg Prod.snd (Table.removeLink_of_gone (h.gone hk))
    refine ⟨?_, ?_⟩
    · rw [table_step, call?, hparting]
      exact hlate
    · rw [table_step, call?, hparting]
      exact hlate
  · refine Table.removeLink_of_registered hx hlink fun y hy hylink => ?_
    exact Roster.eq_of_nodup_filterMap hheld hy hx hylink hlink

-- A session has the number 0 of one that is gone, whose task comes too late and leaves it alone.
example :
    let x := Session.start "10.0.0.1" "10.0.0.1" 1 false 0 ⟨0, 0⟩
    let y := Session.start "10.0.0.1" "10.0.0.1" 2 false 0 ⟨0, 0⟩
    let l : Link := { peer := ⟨.v4 ⟨10, 0, 0, 1⟩, 0, 40000⟩, secure := false, stage := .ended }
    let s := (start { session := { idPolicy := .reuseSlot } }).run
      [.make, .insert 0 x l ⟨0, 0⟩, .operate (.remove ⟨0⟩), .make, .insert 1 y l ⟨0, 0⟩]
    (s.gateway.table.sessions.map fun x => (x.sensor, x.link)) = [(⟨0⟩, some 1)]
      ∧ (s.step (.hangUp 0)).gateway.table = s.gateway.table := by
  decide

end Switchboard

end SensorGateway
