import SensorGateway.Proofs.Gateway.Site

/-!
The end of a gateway.

The loop clears the table once, on its way out, and a task that watches a link leaves when the flag
is up without taking its session out. So whatever was entered before the clear is gone after it, and
a session that is entered later stays, if nothing else takes it out (`late_session_stays`).
`left_after_shutdown` says that this is all there is: when everything has ended, the books of the
table balance, whoever is left was entered after the clear, and the table is bare exactly if every
session that was entered after the clear has been let go of and none is in the hands of the reaper
or of an operator.

Sessions are followed by their tickets, which are given out in the order of the inserts. `Kept` is
the invariant: each ticket is in one place, held, let go or in the hands of an operation; whoever is
registered was entered since the clear; and an insert in flight is that of a task.
-/

set_option autoImplicit false

namespace SensorGateway.Site

/-- **Everything has ended:** the flag is up, the loop has returned, and so has every task. -/
structure Ended (s : Site) : Prop where
  stopped : s.stopped = true
  returned : s.loop = .returned
  finished : ∀ task ∈ s.tasks, task.isOver = true

/-- Nothing is registered and no permit is out. -/
def Bare (t : Table) : Prop :=
  t.sessions = [] ∧ t.activeCount = 0 ∧ ∀ address, t.ledger.count address = 0

/-! ## Inserts and their tasks -/

/-- **Every insert in flight is that of a task,** and brings a session with the ticket of the task.
-/
def Owned (flight : List Table.Progress) (tasks : List Task) : Prop :=
  ∀ (j : Nat) (p : Table.Progress) (x : Session), flight[j]? = some p → p.brings? = some x →
    ∃ (i : Nat) (l : Link) (k : Ticket),
      tasks[i]? = some (Task.enrolling l k j) ∧ x.link = some k

section Owned

variable {flight : List Table.Progress} {tasks : List Task}

/-- The last operation in flight, or one before it. -/
theorem getElem?_concat_cases {α : Type} {xs : List α} {x y : α} {j : Nat}
    (h : (xs ++ [x])[j]? = some y) : xs[j]? = some y ∨ j = xs.length ∧ y = x := by
  by_cases hlt : j < xs.length
  · rw [List.getElem?_append_left hlt] at h
    exact Or.inl h
  · have hj : j < (xs ++ [x]).length := (List.getElem?_eq_some_iff.mp h).1
    rw [List.length_append, List.length_singleton] at hj
    have hlast : j = xs.length := by omega
    rw [hlast, List.getElem?_concat_length] at h
    cases h
    exact Or.inr ⟨hlast, rfl⟩

theorem Owned.call (h : Owned flight tasks) {op : Table.Operation}
    (hnone : (Table.Progress.begun op).brings? = none) :
    Owned (flight ++ [.begun op]) tasks := by
  intro j p x hj hx
  rcases getElem?_concat_cases hj with hold | ⟨-, hnew⟩
  · exact h j p x hold hx
  · rw [hnew, hnone] at hx
    cases hx

/-- A task may change as it likes if its own insert, where it has one, is done. -/
theorem Owned.put (h : Owned flight tasks) {i : Nat}
    (hfree : ∀ l k j p, tasks[i]? = some (.enrolling l k j) → flight[j]? = some p →
      p.brings? = none) (task : Task) :
    Owned flight (tasks.set i task) := by
  intro j p x hj hx
  obtain ⟨i', l, k, htask, hlink⟩ := h j p x hj hx
  by_cases hi : i = i'
  · rw [← hi] at htask
    rw [hfree l k j p htask hj] at hx
    cases hx
  · refine ⟨i', l, k, ?_, hlink⟩
    rw [List.getElem?_set_ne hi]
    exact htask

/-- A task that arrives takes no insert from another. -/
theorem Owned.arrive (h : Owned flight tasks) (task : Task) : Owned flight (tasks ++ [task]) := by
  intro j p x hj hx
  obtain ⟨i, l, k, htask, hlink⟩ := h j p x hj hx
  have hi : i < tasks.length := (List.getElem?_eq_some_iff.mp htask).1
  refine ⟨i, l, k, ?_, hlink⟩
  rw [List.getElem?_append_left hi]
  exact htask

/-- An insert begins as that of the task that calls it. -/
theorem Owned.enroll (h : Owned flight tasks) {i : Nat} {l : Link}
    (htask : tasks[i]? = some (.linked l)) {x : Session} {k : Ticket} (hlink : x.link = some k)
    (now : Moment) :
    Owned (flight ++ [.begun (.insert x now)]) (tasks.set i (.enrolling l k flight.length)) := by
  have hi : i < tasks.length := (List.getElem?_eq_some_iff.mp htask).1
  have hother : Owned flight (tasks.set i (.enrolling l k flight.length)) := by
    apply h.put
    intro l' k' j p hmine
    rw [htask] at hmine
    cases hmine
  intro j p y hj hy
  rcases getElem?_concat_cases hj with hold | ⟨hlast, hnew⟩
  · exact hother j p y hold hy
  · rw [hnew] at hy
    cases hy
    rw [hlast]
    exact ⟨i, l, k, List.getElem?_set_self hi, hlink⟩

/-- A step of an operation brings no session that it did not bring before. -/
theorem Owned.advance (h : Owned flight tasks) {j : Nat} {p : Table.Progress}
    (hp : flight[j]? = some p) (t : Table) : Owned (flight.set j (t.advance p).1) tasks := by
  have hj : j < flight.length := (List.getElem?_eq_some_iff.mp hp).1
  intro j' p' x hj' hx
  by_cases hsame : j = j'
  · rw [← hsame, List.getElem?_set_self hj] at hj'
    cases hj'
    rw [← hsame]
    exact h j p x hp (Table.brings?_of_advance hx)
  · rw [List.getElem?_set_ne hsame] at hj'
    exact h j' p' x hj' hx

end Owned

/-! ## The invariant -/

/-- **What holds at every moment.** -/
structure Kept (s : Site) : Prop where
  accounted : s.traffic.Accounted
  counted : s.traffic.table.activeCount = s.traffic.table.sessions.length
  tickets : (s.traffic.table.tickets ++ s.traffic.flight.flatMap Table.Progress.tickets).Perm
    (List.range s.nextTicket)
  owned : Owned s.traffic.flight s.tasks
  linked : ∀ x ∈ s.traffic.table.sessions, ∃ k ∈ s.late, x.link = some k
  late : ∀ k ∈ s.late, k < s.nextTicket

/-- Before the first link there is nothing to account for. -/
theorem kept_start (c : Config) (port : UInt16) : (start c port).Kept where
  accounted := ⟨fun _ => rfl, fun _ => rfl, fun _ => Nat.zero_le _⟩
  counted := rfl
  tickets := List.Perm.refl []
  owned := by
    intro j p x hj
    cases hj
  linked := by
    intro x hx
    cases hx
  late := by
    intro k hk
    cases hk

variable {s : Site}

/-- A ticket in the hands of an operation was given out. -/
theorem Kept.lt_of_mem_flight (h : s.Kept) {p : Table.Progress} (hp : p ∈ s.traffic.flight)
    {k : Ticket} (hk : k ∈ p.tickets) : k < s.nextTicket := by
  have hmem : k ∈ s.traffic.table.tickets ++ s.traffic.flight.flatMap Table.Progress.tickets :=
    List.mem_append_right _ (List.mem_flatMap.mpr ⟨p, hp, hk⟩)
  exact List.mem_range.mp (h.tickets.mem_iff.mp hmem)

theorem Kept.turn (h : s.Kept) (stopped : Bool) (loop : Accepting) :
    { s with stopped := stopped, loop := loop }.Kept :=
  ⟨h.accounted, h.counted, h.tickets, h.owned, h.linked, h.late⟩

theorem Kept.arrive (h : s.Kept) (loop : Accepting) (task : Task) :
    { s with loop := loop, tasks := s.tasks ++ [task] }.Kept :=
  ⟨h.accounted, h.counted, h.tickets, h.owned.arrive task, h.linked, h.late⟩

/-- Calling an operation that brings no session moves no ticket. -/
theorem Kept.call (h : s.Kept) {op : Table.Operation}
    (hnone : (Table.Progress.begun op).brings? = none) : (s.call op).Kept where
  accounted := h.accounted.move (.begin op)
  counted := h.counted
  tickets := by
    have htickets : (Table.Progress.begun op).tickets = [] := by
      rw [Table.Progress.tickets_eq, hnone]
      rfl
    have hflight : (s.call op).traffic.flight.flatMap Table.Progress.tickets
        = s.traffic.flight.flatMap Table.Progress.tickets := by
      show (s.traffic.flight ++ [Table.Progress.begun op]).flatMap _ = _
      rw [List.flatMap_append, List.flatMap_singleton, htickets, List.append_nil]
    rw [hflight]
    exact h.tickets
  owned := h.owned.call hnone
  linked := h.linked
  late := h.late

/-- A task whose insert is done may go on as it likes. -/
theorem Kept.put (h : s.Kept) {i : Nat}
    (hfree : ∀ l k j p, s.tasks[i]? = some (.enrolling l k j) → s.traffic.flight[j]? = some p →
      p.brings? = none) (task : Task) : (s.put i task).Kept :=
  ⟨h.accounted, h.counted, h.tickets, h.owned.put hfree task, h.linked, h.late⟩

/-- So may one that has a link in its hands, since it has no insert. -/
theorem Kept.putLinked (h : s.Kept) {i : Nat} {l : Link}
    (htask : s.tasks[i]? = some (.linked l)) (task : Task) : (s.put i task).Kept := by
  apply h.put
  intro l' k j p hmine
  rw [htask] at hmine
  cases hmine

/-- A node that goes has its session removed, if it has one. -/
theorem Kept.gone (h : s.Kept) {i : Nat} {l : Link} (htask : s.tasks[i]? = some (.linked l))
    (fault : Option OsFault) : (s.goneLink i l fault).Kept := by
  unfold goneLink
  split
  · exact (h.putLinked htask _).call rfl
  · exact h.putLinked htask _

/-- An insert begins with a ticket of its own. -/
theorem Kept.enroll (h : s.Kept) {i : Nat} {l : Link} (htask : s.tasks[i]? = some (.linked l))
    (now : Moment) : (s.enrollLink i l now).Kept := by
  unfold enrollLink
  split
  · rename_i record hstage
    refine ⟨h.accounted.move (.begin _), h.counted, ?_, h.owned.enroll htask rfl now, h.linked, ?_⟩
    · have hflight : (s.traffic.flight ++ [Table.Progress.begun (.insert
          (Gateway.inboundSession l record s.nextTicket now) now)]).flatMap Table.Progress.tickets
          = s.traffic.flight.flatMap Table.Progress.tickets ++ [s.nextTicket] := by
        rw [List.flatMap_append, List.flatMap_singleton]
        rfl
      show (s.traffic.table.tickets ++ (s.traffic.flight ++ [_]).flatMap _).Perm
        (List.range (s.nextTicket + 1))
      rw [hflight, ← List.append_assoc, List.range_succ]
      exact h.tickets.append_right [s.nextTicket]
    · intro k hk
      exact Nat.lt_succ_of_lt (h.late k hk)
  · exact h

/-- The sessions that were entered since the clear, unless the step is the clear. -/
theorem lateAfter_of_ne (t : Table) {p : Table.Progress} (h : p ≠ .begun .clear)
    (late : List Ticket) :
    lateAfter t p late = ((t.enters p).bind Session.link).toList ++ late := by
  unfold lateAfter
  split
  · exact absurd rfl h
  · rfl

/-- **A step of an operation leaves each ticket in one place.** -/
theorem Kept.tickets_advance (h : s.Kept) {j : Nat} {p : Table.Progress}
    (hp : s.traffic.flight[j]? = some p) :
    ((s.traffic.table.advance p).2.tickets
        ++ (s.traffic.flight.set j (s.traffic.table.advance p).1).flatMap
            Table.Progress.tickets).Perm (List.range s.nextTicket) := by
  refine List.Perm.trans ?_ h.tickets
  rw [List.perm_iff_count]
  intro k
  -- what the table gives away the operation takes over, and the other operations are as before
  have hstep := (s.traffic.table.tickets_advance p).count_eq k
  have hflight := (Table.Traffic.perm_flatMap_set hp (s.traffic.table.advance p).1
    Table.Progress.tickets).count_eq k
  rw [List.count_append, List.count_append] at hstep hflight
  rw [List.count_append, List.count_append]
  omega

/-- The session that a step enters has the ticket of its task. -/
theorem Kept.link_of_enters (h : s.Kept) {j : Nat} {p : Table.Progress}
    (hp : s.traffic.flight[j]? = some p) {x : Session} (hx : s.traffic.table.enters p = some x) :
    ∃ k, x.link = some k ∧ k < s.nextTicket := by
  have hbrings := Table.brings?_of_enters hx
  obtain ⟨i, l, k, -, hlink⟩ := h.owned j p x hp hbrings
  have hk : k ∈ p.tickets := by
    rw [Table.Progress.tickets_eq, hbrings, Option.bind_some, hlink]
    exact List.mem_append_left _ (List.mem_singleton.mpr rfl)
  exact ⟨k, hlink, h.lt_of_mem_flight (List.mem_of_getElem? hp) hk⟩

/-- **A step of an operation.** The clear begins with an empty list of late sessions and leaves an
empty table; any other step adds at most the session that it enters, to both. -/
theorem Kept.advance (h : s.Kept) {j : Nat} {p : Table.Progress}
    (hp : s.traffic.flight[j]? = some p) : (s.step (.advance j)).Kept := by
  rw [step_advance hp]
  have hmove := Table.Traffic.move_advance hp
  refine ⟨h.accounted.move (.advance j), ?_, ?_, ?_, ?_, ?_⟩
  · simp only [hmove]
    exact Table.counted_advance h.counted p
  · simp only [hmove]
    exact h.tickets_advance hp
  · simp only [hmove]
    exact h.owned.advance hp s.traffic.table
  · simp only [hmove]
    intro x hx
    by_cases hclear : p = .begun .clear
    · rw [hclear] at hx
      cases hx
    · rw [lateAfter_of_ne _ hclear]
      rcases Table.link_advance hx with ⟨y, hy, hlink⟩ | ⟨y, henters, hlink⟩
      · obtain ⟨k, hk, hyk⟩ := h.linked y hy
        exact ⟨k, List.mem_append_right _ hk, hlink.symm.trans hyk⟩
      · obtain ⟨k, hyk, -⟩ := h.link_of_enters hp henters
        refine ⟨k, List.mem_append_left _ ?_, hlink.symm.trans hyk⟩
        rw [henters, Option.bind_some, hyk]
        exact List.mem_singleton.mpr rfl
  · intro k hk
    by_cases hclear : p = .begun .clear
    · rw [hclear] at hk
      cases hk
    · rw [lateAfter_of_ne _ hclear] at hk
      rcases List.mem_append.mp hk with hnew | hold
      · obtain ⟨x, henters, hlink⟩ := Option.bind_eq_some_iff.mp (Option.mem_toList.mp hnew)
        obtain ⟨k', hxk, hlt⟩ := h.link_of_enters hp henters
        rw [hlink] at hxk
        cases hxk
        exact hlt
      · exact h.late k hold

/-- **One event more.** Of the events of the loop and of the tasks only those matter that call an
operation or give a task another insert. -/
theorem Kept.step (h : s.Kept) (e : Event) : (s.step e).Kept := by
  cases e with
  | stop => exact h.turn true s.loop
  | look =>
    simp only [Site.step]
    split
    · exact h.turn s.stopped _
    · exact h
  | arrive peer =>
    simp only [Site.step]
    split
    · exact h.arrive _ _
    · exact h
  | acceptFails =>
    simp only [Site.step]
    split
    · exact h.turn s.stopped _
    · exact h
  | wake =>
    simp only [Site.step]
    split
    · exact h.turn s.stopped _
    · exact h
  | close =>
    simp only [Site.step]
    split
    · have hcall : (s.call .clear).Kept := h.call rfl
      exact hcall.turn _ _
    · exact h
  | cleared =>
    simp only [Site.step]
    split
    · split
      · exact h.turn s.stopped _
      · exact h
    · exact h
  | begin i now =>
    simp only [Site.step]
    split
    · rename_i peer htask
      apply h.put
      intro l k j p hmine
      rw [htask] at hmine
      cases hmine
    · exact h
  | link i e =>
    simp only [Site.step]
    split
    · exact h.putLinked ‹_› _
    · exact h
  | gone i fault =>
    simp only [Site.step]
    split
    · exact h.gone ‹_› fault
    · exact h
  | enroll i now =>
    simp only [Site.step]
    split
    · exact h.enroll ‹_› now
    · exact h
  | enrolled i =>
    simp only [Site.step]
    split
    · rename_i l ticket j htask
      split
      · rename_i entered hover
        -- the insert of the task is over, so the task may let go of it
        apply h.put
        intro l' k' j' p hmine hp
        rw [htask] at hmine
        cases hmine
        rw [hover] at hp
        cases hp
        rfl
      · exact h
    · exact h
  | parted i =>
    simp only [Site.step]
    split
    · rename_i l j htask
      split
      · apply h.put
        intro l' k' j' p hmine
        rw [htask] at hmine
        cases hmine
      · exact h
    · exact h
  | errand e =>
    apply h.call
    rcases e with ⟨steady, timeout⟩ | id | ⟨id, reading, now⟩
    · rfl
    · rfl
    · rfl
  | advance j =>
    rcases hp : s.traffic.flight[j]? with _ | p
    · simpa only [Site.step, hp] using h
    · exact h.advance hp

theorem Kept.run (h : s.Kept) (events : List Event) : (s.run events).Kept := by
  induction events generalizing s with
  | nil => exact h
  | cons e es ih => exact ih (h.step e)

/-! ## What is left -/

/-- When every task has ended, no insert is under way. -/
theorem Kept.brings?_eq_none (h : s.Kept) (hended : s.Ended) {p : Table.Progress}
    (hp : p ∈ s.traffic.flight) : p.brings? = none := by
  obtain ⟨j, hj⟩ := List.mem_iff_getElem?.mp hp
  rcases hbrings : p.brings? with _ | x
  · rfl
  · -- its task would still be enrolling
    obtain ⟨i, l, k, htask, -⟩ := h.owned j p x hj hbrings
    have hover := hended.finished _ (List.mem_of_getElem? htask)
    cases hover

/-- What an insert has in its hands it brings. -/
theorem inserting_of_brings? {p : Table.Progress} (h : p.brings? = none) : p.inserting = [] := by
  rcases p with op | ⟨x, now⟩ | x | ⟨gone, status⟩ | entered
  · rfl
  · cases h
  · cases h
  · rfl
  · rfl

theorem headcount_eq_zero {sessions : List Session}
    (h : ∀ address, Table.headcount address sessions = 0) : sessions = [] := by
  rw [List.eq_nil_iff_forall_not_mem]
  intro x hx
  have hnone := h x.address
  rw [Table.headcount, List.countP_eq_zero] at hnone
  exact hnone x hx (by simp)

/-- A ticket that is held has not been let go. -/
theorem Kept.not_mem_released (h : s.Kept) {x : Session} (hx : x ∈ s.traffic.table.sessions)
    {k : Ticket} (hk : x.link = some k) : k ∉ s.traffic.table.released := by
  have hnodup := (List.nodup_append.mp (h.tickets.nodup_iff.mpr List.nodup_range)).1
  have hheld : k ∈ s.traffic.table.sessions.filterMap Session.link :=
    List.mem_filterMap.mpr ⟨x, hx, hk⟩
  intro hreleased
  exact (List.nodup_append.mp hnodup).2.2 k hheld k hreleased rfl

/-- **What is left when everything has ended.** Whoever is still registered was entered after the
loop had taken all sessions out. The books balance: an address holds a permit for each of its
registered sessions and for each that an errand has in its hands. Nothing is left exactly if every
session that was entered after the clear has been let go of and no errand has one in its hands. -/
theorem left_after_shutdown (c : Config) (port : UInt16) (events : List Event)
    (hended : ((start c port).run events).Ended) :
    let s := (start c port).run events
    let t := s.traffic.table
    (∀ x ∈ t.sessions, ∃ k ∈ s.late, x.link = some k)
      ∧ t.activeCount = t.sessions.length
      ∧ (∀ address, t.ledger.count address
          = t.registered address + Table.headcount address s.traffic.unlinked)
      ∧ (Bare t ↔ (∀ k ∈ s.late, k ∈ t.released) ∧ s.traffic.unlinked = []) := by
  have hkept := (kept_start c port).run events
  intro s t
  have hnone : ∀ p ∈ s.traffic.flight, p.brings? = none := fun p hp =>
    hkept.brings?_eq_none hended hp
  have hinserting : s.traffic.inserting = [] :=
    List.flatMap_eq_nil_iff.mpr fun p hp => inserting_of_brings? (hnone p hp)
  -- no insert is under way, so the permits out are those of registered sessions and of errands
  have hcount : ∀ address, t.ledger.count address
      = t.registered address + Table.headcount address s.traffic.unlinked := by
    intro address
    have haccount := hkept.accounted.count_eq address
    rw [hinserting] at haccount
    exact haccount
  refine ⟨hkept.linked, hkept.counted, hcount, ?_, ?_⟩
  · rintro ⟨hempty, -, hfree⟩
    have hunlinked : s.traffic.unlinked = [] := by
      apply headcount_eq_zero
      intro address
      have hzero := hcount address
      rw [hfree address] at hzero
      omega
    refine ⟨?_, hunlinked⟩
    -- every ticket that was given out has been let go, since nothing else holds one
    have hflight : s.traffic.flight.flatMap Table.Progress.tickets = [] := by
      apply List.flatMap_eq_nil_iff.mpr
      intro p hp
      rw [Table.Progress.tickets_eq, hnone p hp, List.flatMap_eq_nil_iff.mp hunlinked p hp]
      rfl
    have htickets := hkept.tickets
    rw [hflight, List.append_nil] at htickets
    have hreleased : t.tickets = t.released := by
      rw [Table.tickets, hempty, List.filterMap_nil, List.nil_append]
    intro k hk
    rw [← hreleased]
    exact htickets.mem_iff.mpr (List.mem_range.mpr (hkept.late k hk))
  · rintro ⟨hreleased, hunlinked⟩
    -- a registered session would be late, and its ticket both held and let go
    have hempty : t.sessions = [] := by
      rw [List.eq_nil_iff_forall_not_mem]
      intro x hx
      obtain ⟨k, hk, hlink⟩ := hkept.linked x hx
      exact hkept.not_mem_released hx hlink (hreleased k hk)
    refine ⟨hempty, ?_, ?_⟩
    · exact hkept.counted.trans (congrArg List.length hempty)
    · intro address
      rw [hcount address, hunlinked, Table.registered, hempty, Table.headcount_nil]

/-- A node comes in before the stop flag is raised, and introduces itself after the clear. -/
def lateNode : List Event :=
  let peer : Net.SocketAddress := ⟨.v4 ⟨127, 0, 0, 1⟩, 0, 40000⟩
  let record : List UInt8 :=
    [1, 0, 0, 0, 49, 50, 55, 46, 48, 46, 48, 46, 49, 0, 0, 0, 0, 0, 0, 0, 40, 35, 0, 0]
  [.look, .arrive peer, .begin 0 ⟨0, 0⟩,
    .stop, .look, .close, .advance 0, .advance 0, .cleared,
    .link 0 (.bytes record), .enroll 0 ⟨0, 0⟩, .advance 1, .advance 1, .enrolled 0,
    .link 0 .attend]

/-- **A late session stays.** Its task has seen the flag and ended, and nobody takes it out. -/
theorem late_session_stays :
    let s := (start { tls := .disabled } 0).run lateNode
    s.Ended ∧ (∀ p ∈ s.traffic.flight, p.isOver = true)
      ∧ s.traffic.table.activeCount = 1 ∧ s.traffic.table.ledger.count "127.0.0.1" = 1
      ∧ ¬ Bare s.traffic.table := by
  have hactive : ((start { tls := .disabled } 0).run lateNode).traffic.table.activeCount = 1 := rfl
  refine ⟨⟨rfl, rfl, by decide⟩, by decide, hactive, rfl, ?_⟩
  rintro ⟨-, hnone, -⟩
  rw [hactive] at hnone
  cases hnone

/-- What is left of that run was entered after the clear, and has not been let go of. -/
theorem left_after_late_node :
    let s := (start { tls := .disabled } 0).run lateNode
    let t := s.traffic.table
    s.Ended
      ∧ (∀ x ∈ t.sessions, ∃ k ∈ s.late, x.link = some k)
      ∧ t.activeCount = t.sessions.length
      ∧ (∀ address, t.ledger.count address
          = t.registered address + Table.headcount address s.traffic.unlinked)
      ∧ (Bare t ↔ (∀ k ∈ s.late, k ∈ t.released) ∧ s.traffic.unlinked = []) := by
  have hended : ((start { tls := .disabled } 0).run lateNode).Ended := ⟨rfl, rfl, by decide⟩
  exact ⟨hended, left_after_shutdown { tls := .disabled } 0 lateNode hended⟩

end SensorGateway.Site
