import Mathlib.Data.List.Induction
import SensorGateway.Proofs.Session.Census

/-!
Which sessions a sweep takes out, and since when they have been idle.

A sweep goes along the sessions with an index, takes out what has expired where it stands, and moves
on past what stays. It skips nobody and looks at nobody twice: what it takes out is what a filter
picks, and the rest stays in order (`Roster.takeExpired_eq`).

Whether a session has expired is judged by one field. `heardOf_run` ties that field to the run: a
session is told from others by its link, and its last activity is the last reading that was noted for
a number by which a look-up found it, or, where there was none, its creation.
-/

set_option autoImplicit false

namespace SensorGateway

namespace Table

/-! ## Links and the history of a session -/

/-- The sessions that operations insert. -/
def inserted (operations : List Operation) : List Session :=
  operations.filterMap fun op => (Progress.begun op).brings?

/-- The tickets that operations bring to a table. -/
def brought (operations : List Operation) : List Ticket :=
  operations.flatMap fun op => (Progress.begun op).tickets

/-- **Every session that is inserted owns a link,** and no two of them own the same. -/
structure OwnLinks (operations : List Operation) : Prop where
  linked : ∀ given ∈ inserted operations, given.link.isSome = true
  distinct : (brought operations).Nodup

/-- When the session of a link hears a reading, if an operation reaches it. -/
def heard? (t : Table) (k : Ticket) : Operation → Option Nat
  | .updateReading id _ now =>
    if (t.find? id).bind Session.link = some k then some now.steady else none
  | _ => none

/-- **When the session of a link heard its last reading** in a run. -/
def lastHeard? (t : Table) (k : Ticket) : List Operation → Option Nat
  | [] => none
  | op :: operations => ((t.apply op).lastHeard? k operations).or (t.heard? k op)

/-- The steady clock does not go back: no reading is noted before a session was made that came in
earlier. -/
def Ticking (operations : List Operation) : Prop :=
  operations.Pairwise fun earlier later => ∀ given time id reading now,
    earlier = .insert given time → later = .updateReading id reading now →
      given.lastSeen ≤ now.steady

/-- **The last activity of a session is the last reading that reached it,** or its creation if none
did; as the clock does not go back, it is the later of the two. -/
def HeardOf (t : Table) (operations : List Operation) (s : Session) : Prop :=
  ∃ k given time, s.link = some k ∧ .insert given time ∈ operations ∧ given.link = some k
    ∧ s.lastSeen = (t.lastHeard? k operations).getD given.lastSeen
    ∧ (Ticking operations → given.lastSeen ≤ s.lastSeen)

variable {t : Table} {operations : List Operation} {op : Operation} {k : Ticket} {s : Session}

/-- The latest operation has a say first. -/
theorem lastHeard?_concat (t : Table) (k : Ticket) (operations : List Operation) (op : Operation) :
    t.lastHeard? k (operations ++ [op])
      = ((t.run operations).heard? k op).or (t.lastHeard? k operations) := by
  induction operations generalizing t with
  | nil => simp [lastHeard?]
  | cons first operations ih =>
    rw [List.cons_append, lastHeard?, ih, Option.or_assoc]
    rfl

/-- The tickets of a table are those that were brought to it. -/
theorem tickets_run (t : Table) (operations : List Operation) :
    (t.run operations).tickets.Perm (t.tickets ++ brought operations) := by
  induction operations generalizing t with
  | nil => simp [brought]
  | cons op operations ih =>
    have hfirst := (t.tickets_apply op).append_right (brought operations)
    rw [List.append_assoc] at hfirst
    exact (ih (t.apply op)).trans hfirst

/-- The front of a run has links of its own as well, -/
theorem OwnLinks.front (h : OwnLinks (operations ++ [op])) : OwnLinks operations := by
  have hlinked := h.linked
  have hdistinct := h.distinct
  rw [inserted, List.filterMap_append] at hlinked
  rw [brought, List.flatMap_append] at hdistinct
  exact ⟨fun given hmem => hlinked given (List.mem_append_left _ hmem),
    (List.nodup_append.mp hdistinct).1⟩

/-- and a clock that does not go back. -/
theorem Ticking.front (h : Ticking (operations ++ [op])) : Ticking operations :=
  (List.pairwise_append.mp h).1

/-- An operation that does not reach a session leaves its last activity as it is. -/
theorem HeardOf.concat (h : HeardOf t operations s)
    (hquiet : ∀ k, s.link = some k → (t.run operations).heard? k op = none) :
    HeardOf t (operations ++ [op]) s := by
  obtain ⟨k, given, time, hlink, hmem, hgiven, hseen, hlater⟩ := h
  refine ⟨k, given, time, hlink, List.mem_append_left _ hmem, hgiven, ?_, fun hclock => ?_⟩
  · rw [lastHeard?_concat, hquiet k hlink, Option.none_or]
    exact hseen
  · exact hlater hclock.front

/-- A link that one session owns is that of no session beside it. -/
theorem link_ne_of_nodup {front back : List Session} {y : Session}
    (h : ((front ++ y :: back).filterMap Session.link).Nodup) (hy : y.link = some k) :
    ∀ x ∈ front ++ back, x.link ≠ some k := by
  intro x hx hlink
  have hmoved : (front ++ y :: back).Perm (y :: (front ++ back)) := List.perm_middle
  have hperm := hmoved.filterMap Session.link
  rw [List.filterMap_cons_some hy] at hperm
  have hnodup := hperm.nodup_iff.mp h
  exact (List.nodup_cons.mp hnodup).1 (List.mem_filterMap.mpr ⟨x, hx, hlink⟩)

/-- **A reading is the last activity of the session that it reaches,** and of no other. -/
theorem heardOf_updateReading (hold : ∀ x ∈ (t.run operations).sessions, HeardOf t operations x)
    (hnodup : ((t.run operations).sessions.filterMap Session.link).Nodup) (id : SensorId)
    (reading : Reading) (now : Moment) :
    ∀ x ∈ ((t.run operations).updateReading id reading now).2.sessions,
      HeardOf t (operations ++ [.updateReading id reading now]) x := by
  intro x hx
  rw [sessions_updateReading] at hx
  rcases hfind : (t.run operations).find? id with _ | y
  · -- nobody has the number
    have hnone : ∀ y ∈ (t.run operations).sessions, decide (y.sensor = id) = false := by
      intro y hy
      have hno := List.find?_eq_none.mp hfind y hy
      simpa using hno
    rw [Roster.adjustFirst_of_none hnone] at hx
    refine (hold x hx).concat fun k _ => ?_
    simp [heard?, hfind]
  · obtain ⟨front, back, hsessions, hadjusted⟩ :=
      Roster.adjustFirst_of_find? hfind (·.hear reading now)
    have hmem : y ∈ (t.run operations).sessions := List.mem_of_find?_eq_some hfind
    obtain ⟨k, given, time, hlink, hgiven, howns, -, -⟩ := hold y hmem
    rw [sessions] at hnodup hold
    rw [hsessions] at hnodup hold
    rw [sessions, hadjusted] at hx
    -- the session that is found hears the reading now; all others own other links
    have hheard : (t.run operations).heard? k (.updateReading id reading now)
        = some now.steady := by
      simp [heard?, hfind, hlink]
    by_cases hself : x = y.hear reading now
    · refine ⟨k, given, time, ?_, List.mem_append_left _ hgiven, howns, ?_, fun hclock => ?_⟩
      · rw [hself]
        exact hlink
      · rw [lastHeard?_concat, hheard, hself]
        rfl
      · rw [hself]
        have hbefore := (List.pairwise_append.mp hclock).2.2 _ hgiven _ (List.mem_singleton.mpr rfl)
        exact hbefore given time id reading now rfl rfl
    · have hother : x ∈ front ++ back := by
        rcases List.mem_append.mp hx with hfront | hrest
        · exact List.mem_append_left _ hfront
        · rcases List.mem_cons.mp hrest with heq | hback
          · exact absurd heq hself
          · exact List.mem_append_right _ hback
      have hstays : x ∈ front ++ y :: back := by
        rcases List.mem_append.mp hother with hfront | hback
        · exact List.mem_append_left _ hfront
        · exact List.mem_append_right _ (List.mem_cons_of_mem y hback)
      refine (hold x hstays).concat fun k' hk' => ?_
      have hne : k ≠ k' := by
        rintro rfl
        exact link_ne_of_nodup hnodup hlink x hother hk'
      simp [heard?, hfind, hlink, hne]

/-- Only a reading reaches a session, and the session is registered. -/
theorem reached_of_heard? {steady : Nat} (h : t.heard? k op = some steady) :
    (∃ id reading now, op = .updateReading id reading now) ∧ ∃ y ∈ t.sessions, y.link = some k := by
  unfold heard? at h
  split at h
  next id reading now =>
    split at h
    next hlink =>
      obtain ⟨y, hfind, hy⟩ := Option.bind_eq_some_iff.mp hlink
      exact ⟨⟨id, reading, now, rfl⟩, y, List.mem_of_find?_eq_some hfind, hy⟩
    next => cases h
  next => cases h

/-- No reading reaches a session whose link was never brought. -/
theorem lastHeard?_of_not_brought (policy : IdPolicy) (ceiling capacity : Nat)
    (hk : k ∉ brought operations) :
    (fresh policy ceiling capacity).lastHeard? k operations = none := by
  induction operations using List.reverseRecOn with
  | nil => rfl
  | append_singleton operations op ih =>
    have hbefore : k ∉ brought operations := fun hmem => hk (by
      rw [brought, List.flatMap_append]
      exact List.mem_append_left _ hmem)
    rw [lastHeard?_concat, ih hbefore, Option.or_none]
    rcases hheard : ((fresh policy ceiling capacity).run operations).heard? k op with _ | steady
    · rfl
    · -- a session that is reached is registered, and its link was brought
      obtain ⟨y, hy, hlink⟩ := (reached_of_heard? hheard).2
      have hticket : k ∈ ((fresh policy ceiling capacity).run operations).tickets :=
        List.mem_append_left _ (List.mem_filterMap.mpr ⟨y, hy, hlink⟩)
      exact absurd ((tickets_run _ operations).mem_iff.mp hticket) hbefore

/-- A session that is admitted has not been heard of since its creation. -/
theorem heardOf_insert {policy : IdPolicy} {ceiling capacity : Nat} {given : Session} {time : Moment}
    (hown : OwnLinks (operations ++ [.insert given time])) (r : Roster) (policy' : IdPolicy) :
    HeardOf (fresh policy ceiling capacity) (operations ++ [.insert given time])
      (r.numbered policy' given time) := by
  have hmem : Operation.insert given time ∈ operations ++ [.insert given time] :=
    List.mem_append_right _ (List.mem_singleton.mpr rfl)
  have hinserted : given ∈ inserted (operations ++ [.insert given time]) :=
    List.mem_filterMap.mpr ⟨_, hmem, rfl⟩
  obtain ⟨k, hlink⟩ := Option.isSome_iff_exists.mp (hown.linked given hinserted)
  have hdistinct := hown.distinct
  have hbrings : (Progress.begun (.insert given time)).tickets = [k] := by
    simp [Progress.tickets, hlink]
  rw [brought, List.flatMap_append, List.flatMap_singleton, hbrings] at hdistinct
  -- its link is new, so no reading before can have been for it
  have hk : k ∉ brought operations := fun hold =>
    (List.nodup_append.mp hdistinct).2.2 k hold k (List.mem_singleton.mpr rfl) rfl
  refine ⟨k, given, time, hlink, hmem, hlink, ?_, fun _ => Nat.le_refl _⟩
  rw [lastHeard?_concat, lastHeard?_of_not_brought policy ceiling capacity hk]
  rfl

/-- **The last activity of every registered session,** over whole runs. -/
theorem heardOf_run (policy : IdPolicy) (ceiling capacity : Nat) (hown : OwnLinks operations) :
    ∀ x ∈ ((fresh policy ceiling capacity).run operations).sessions,
      HeardOf (fresh policy ceiling capacity) operations x := by
  induction operations using List.reverseRecOn with
  | nil => rintro x ⟨⟩
  | append_singleton operations op ih =>
    have hold := ih hown.front
    rw [run_concat]
    by_cases hupdate : ∃ id reading now, op = .updateReading id reading now
    · obtain ⟨id, reading, now, rfl⟩ := hupdate
      have hnodup : ((fresh policy ceiling capacity).run operations).tickets.Nodup :=
        (tickets_run _ operations).nodup_iff.mpr hown.front.distinct
      exact heardOf_updateReading hold (List.nodup_append.mp hnodup).1 id reading now
    · have hquiet : ∀ k, ((fresh policy ceiling capacity).run operations).heard? k op = none := by
        intro k
        rcases hheard : ((fresh policy ceiling capacity).run operations).heard? k op with _ | steady
        · rfl
        · exact absurd (reached_of_heard? hheard).1 hupdate
      intro x hx
      rcases sessions_apply ((fresh policy ceiling capacity).run operations) op with
        hkept | ⟨given, time, rfl, -, -, heq⟩ | ⟨id, reading, now, hop, -⟩
      · exact (hold x (hkept.subset hx)).concat fun k _ => hquiet k
      · rw [heq] at hx
        rcases List.mem_cons.mp hx with rfl | hx
        · exact heardOf_insert hown _ _
        · exact (hold x hx).concat fun k _ => hquiet k
      · exact absurd ⟨id, reading, now, hop⟩ hupdate

/-! ## A sweep -/

/-- A session has expired if it is active and was heard of more than the timeout before the sweep. -/
theorem expired_eq (steady timeout : Nat) :
    Roster.expired steady timeout
      = fun s => decide (s.active = true ∧ s.lastSeen + timeout < steady) := by
  funext s
  rw [Bool.eq_iff_iff, Roster.expired, Session.idleFor, Bool.and_eq_true, decide_eq_true_eq,
    decide_eq_true_eq]
  exact and_congr_right fun _ => by omega

/-- What a sweep leaves of the roster are those that have not expired, and a count without the
others. -/
theorem takeExpired_snd (r : Roster) (steady timeout : Nat) :
    (r.takeExpired steady timeout).2
      = { r with
          sessions := r.sessions.filter (! Roster.expired steady timeout ·)
          activeCount := r.activeCount
            - (r.sessions.filter (Roster.expired steady timeout)).length } := by
  rw [Roster.takeExpired_eq]

theorem roster_reapIdle (t : Table) (steady timeout : Nat) :
    (t.reapIdle steady timeout).2.roster = (t.roster.takeExpired steady timeout).2 :=
  roster_tearDownAll _ _ _

/-- Each address gets back a permit for each of its sessions that go. -/
theorem count_reapIdle (t : Table) (steady timeout : Nat) (address : String) :
    (t.reapIdle steady timeout).2.ledger.count address = t.ledger.count address
      - headcount address (t.sessions.filter (Roster.expired steady timeout)) := by
  have hcount := count_tearDownAll { t with roster := (t.roster.takeExpired steady timeout).2 }
    .timedOut (t.roster.takeExpired steady timeout).1 address
  refine hcount.trans ?_
  rw [t.roster.takeExpired_fst]
  rfl

/-- **Where nobody has expired a sweep does nothing.** -/
theorem reapIdle_of_none {steady timeout : Nat}
    (h : t.sessions.filter (Roster.expired steady timeout) = []) :
    t.reapIdle steady timeout = ([], t) := by
  have hall : ∀ x ∈ t.sessions, (! Roster.expired steady timeout x) = true := by
    intro x hx
    have hnot := List.filter_eq_nil_iff.mp h x hx
    simpa using hnot
  have htake : t.roster.takeExpired steady timeout = ([], t.roster) := by
    refine Prod.ext ?_ ?_
    · rw [t.roster.takeExpired_fst]
      exact h
    · rw [sessions] at h hall
      rw [takeExpired_snd, h, List.filter_eq_self.mpr hall]
      rfl
  unfold reapIdle
  rw [htake]
  rfl

/-- **A sweep takes out the idle sessions and nobody else.** For any table, instant and timeout: the
loop comes to what a filter picks. Those that are active and were heard of more than the timeout
before the instant are answered, in the order of the table, as timed out, inactive and without their
links. All others stay as they are, in their order; the count drops by as many as are answered, and
so does the count of each address by those that come from it. The same sweep once more finds nobody
and changes nothing. In a table that was reached by operations the count is exact, and the time when
a session was last heard of is that of the last reading that reached it or of its creation, whichever
is later. -/
theorem reaped_are_the_idle (t : Table) (steady timeout : Nat) :
    let idle (s : Session) : Bool := decide (s.active = true ∧ s.lastSeen + timeout < steady)
    let gone := t.sessions.filter idle
    let after := (t.reapIdle steady timeout).2
    t.roster.takeFrom (Roster.expired steady timeout) 0 []
        = (gone, { t.roster with
          sessions := t.sessions.filter (! idle ·), activeCount := t.activeCount - gone.length })
      ∧ (t.reapIdle steady timeout).1
        = gone.map (fun s => { s with active := false, status := .timedOut, link := none })
      ∧ after.roster = { t.roster with
          sessions := t.sessions.filter (! idle ·), activeCount := t.activeCount - gone.length }
      ∧ (∀ address, after.ledger.count address = t.ledger.count address - headcount address gone)
      ∧ after.reapIdle steady timeout = ([], after)
      ∧ ∀ policy ceiling capacity operations,
        t = (fresh policy ceiling capacity).run operations →
          after.activeCount + gone.length = t.activeCount
            ∧ (OwnLinks operations → ∀ s ∈ t.sessions,
              HeardOf (fresh policy ceiling capacity) operations s) := by
  intro idle gone after
  have hidle : Roster.expired steady timeout = idle := expired_eq steady timeout
  have hroster : after.roster = { t.roster with
      sessions := t.sessions.filter (! idle ·), activeCount := t.activeCount - gone.length } := by
    rw [roster_reapIdle, takeExpired_snd, hidle]
    rfl
  refine ⟨?_, ?_, hroster, fun address => ?_, ?_, ?_⟩
  · exact (t.roster.takeExpired_eq steady timeout).trans (by rw [hidle]; rfl)
  · rw [reapIdle_fst, hidle]
    rfl
  · rw [count_reapIdle, hidle]
  · refine reapIdle_of_none ?_
    rw [sessions, hroster, hidle, List.filter_filter]
    simp
  · rintro policy ceiling capacity operations rfl
    refine ⟨?_, heardOf_run policy ceiling capacity⟩
    have hcounted := ((balanced_fresh policy ceiling capacity).run operations).counted
    -- the count is a natural number, and it is not less than those who go
    have hfew : gone.length ≤ _ := List.length_filter_le idle _
    rw [activeCount, hroster]
    show _ - gone.length + gone.length = _
    omega

/-- Of seven sessions the one in front, two side by side and the one at the end have expired; between
them stand one that was heard of since, one that has been idle for exactly the timeout, and one that
is not active. -/
theorem reaped_are_the_idle_of_seven :
    let node (port : UInt16) (seen : Nat) (active : Bool) : Session :=
      { Session.start "10.0.0.1" "10.0.0.1" port false port.toNat ⟨0, seen⟩ with active }
    let operations : List Operation := [.insert (node 1 0 true) ⟨0, 1000⟩,
      .insert (node 2 0 true) ⟨0, 1000⟩, .insert (node 3 1000 true) ⟨0, 1000⟩,
      .insert (node 4 0 true) ⟨0, 1000⟩, .insert (node 5 999 true) ⟨0, 1000⟩,
      .insert (node 6 0 false) ⟨0, 1000⟩, .insert (node 7 20 true) ⟨0, 1000⟩,
      .updateReading ⟨1⟩ ⟨2, ⟨1⟩, ⟨0⟩, true⟩ ⟨0, 2000⟩]
    let t := (fresh .monotonic 10 10).run operations
    let after := (t.reapIdle 31000 30000).2
    (t.reapIdle 31000 30000).1.map (·.port) = [7, 5, 4, 1]
      ∧ after.sessions.map (·.port) = [6, 3, 2]
      ∧ after.reapIdle 31000 30000 = ([], after)
      ∧ after.activeCount + 4 = t.activeCount
      ∧ OwnLinks operations
      ∧ ∀ s ∈ t.sessions, HeardOf (fresh .monotonic 10 10) operations s := by
  intro node operations t after
  have hown : OwnLinks operations := ⟨by decide, by decide⟩
  obtain ⟨-, -, -, -, hagain, hreached⟩ := reaped_are_the_idle t 31000 30000
  obtain ⟨-, hheard⟩ := hreached .monotonic 10 10 operations rfl
  -- the loop does not follow the list, so it is the kernel that runs it
  exact ⟨by decide +kernel, by decide +kernel, hagain, by decide +kernel, hown, hheard hown⟩

end Table

end SensorGateway
