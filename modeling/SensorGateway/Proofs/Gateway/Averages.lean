import Mathlib.Data.List.Induction
import SensorGateway.Gateway.Readings
import SensorGateway.Proofs.Gateway.Switchboard
import SensorGateway.Proofs.Session.Identifiers

/-!
Whose readings the monitor averages.

The monitor keeps a history for each sensor number, and accepts a reading unless its time stamp is
that of the reading accepted last. A number is not a session, so what a history holds depends on how
numbers are given out. `Monitored` is a switchboard with its monitor. It notes every reading that a
session hears, under the ticket of its link, which no other session has, and which of them the
monitor has seen.

As long as an admitted session gets a number that no registered session and no kept history has, an
average is that of readings of one session, each counted once, and each of them the latest of the
session at some look (`averages_of_own_readings`). The monotonic policy sees to that until the
counter has given out all numbers. If a number is given out again between two looks, the new session
takes over the history of the old one.
-/

set_option autoImplicit false

namespace SensorGateway

open Monitor

/-! ## What a look averages -/

namespace Monitor.Histories

variable {hs : Histories} {capacity : Nat}

/-- The sessions of a visit, each with the history that its average is taken over. -/
def looks (hs : Histories) (capacity : Nat) : List Session → List (Session × History)
  | [] => []
  | s :: rest => (s, hs.heard capacity s) :: looks (hs.put (hs.heard capacity s)) capacity rest

theorem looks_fst (hs : Histories) (capacity : Nat) (sessions : List Session) :
    (hs.looks capacity sessions).map (·.1) = sessions := by
  induction sessions generalizing hs with
  | nil => rfl
  | cons s rest ih => exact congrArg (s :: ·) (ih _)

theorem visit_fst (hs : Histories) (capacity : Nat) (band : Band) (sessions : List Session) :
    (hs.visit capacity band sessions).1
      = (hs.looks capacity sessions).flatMap
        fun look => (band.alert? look.1.sensor look.2.average).toList := by
  induction sessions generalizing hs with
  | nil => rfl
  | cons s rest ih =>
    rw [visit, looks, List.flatMap_cons, ← ih]

/-- Putting a history brings in no other. -/
theorem mem_put {h x : History} (hx : x ∈ hs.put h) : x = h ∨ x ∈ hs := by
  induction hs with
  | nil => exact Or.inl (List.mem_singleton.mp hx)
  | cons y ys ih =>
    rw [put] at hx
    split at hx
    · exact (List.mem_cons.mp hx).imp_right (List.mem_cons_of_mem y)
    · rcases List.mem_cons.mp hx with rfl | hrest
      · exact Or.inr List.mem_cons_self
      · exact (ih hrest).imp_right (List.mem_cons_of_mem y)

/-- A history ends with the time stamp of the reading it was shown last. -/
theorem lastSeen_push (h : History) (capacity : Nat) (r : Reading) :
    (h.push capacity r).lastSeen = some r.timestamp := by
  unfold History.push
  split
  next hseen => exact hseen
  next => rfl

theorem sensor_push (h : History) (capacity : Nat) (r : Reading) :
    (h.push capacity r).sensor = h.sensor := by
  unfold History.push
  split
  · rfl
  · rfl

/-- A session is heard into the history with its number. -/
theorem sensor_heard (hs : Histories) (capacity : Nat) (s : Session) :
    (hs.heard capacity s).sensor = s.sensor := by
  rw [heard, sensor_push]
  rcases hfind : hs.find? s.sensor with _ | h
  · rfl
  · have hsensor := List.find?_some hfind
    simpa using hsensor

/-- Each average is over a history with the number of the session, and was shown its latest
reading. -/
theorem mem_looks {sessions : List Session} {look : Session × History}
    (hlook : look ∈ hs.looks capacity sessions) :
    look.1 ∈ sessions ∧ look.2.sensor = look.1.sensor
      ∧ look.2.lastSeen = some look.1.latest.timestamp := by
  induction sessions generalizing hs with
  | nil => cases hlook
  | cons s rest ih =>
    rcases List.mem_cons.mp hlook with rfl | hrest
    · exact ⟨List.mem_cons_self, sensor_heard hs capacity s, lastSeen_push _ _ _⟩
    · obtain ⟨hmem, hsame⟩ := ih hrest
      exact ⟨List.mem_cons_of_mem s hmem, hsame⟩

/-- **What holds of every history goes on to hold in a visit,** if it holds of what each session makes
of a history that is there or of a new one. -/
theorem forall_visit (band : Band) {p : History → Prop} {sessions : List Session}
    (hold : ∀ h ∈ hs, p h)
    (hpush : ∀ s ∈ sessions, ∀ h, h.sensor = s.sensor → (h = { sensor := s.sensor } ∨ p h) →
      p (h.push capacity s.latest)) :
    (∀ look ∈ hs.looks capacity sessions, p look.2)
      ∧ ∀ h ∈ (hs.visit capacity band sessions).2, p h := by
  induction sessions generalizing hs with
  | nil => exact ⟨by rintro look ⟨⟩, hold⟩
  | cons s rest ih =>
    have hheard : p (hs.heard capacity s) := by
      unfold heard
      rcases hfind : hs.find? s.sensor with _ | h
      · exact hpush s List.mem_cons_self _ rfl (Or.inl rfl)
      · have hsensor := List.find?_some hfind
        refine hpush s List.mem_cons_self h (by simpa using hsensor) (Or.inr ?_)
        exact hold h (List.mem_of_find?_eq_some hfind)
    have hput : ∀ h ∈ hs.put (hs.heard capacity s), p h := by
      intro h hh
      rcases mem_put hh with rfl | hh
      · exact hheard
      · exact hold h hh
    obtain ⟨hlooks, hvisit⟩ := ih hput fun x hx => hpush x (List.mem_cons_of_mem s hx)
    refine ⟨?_, hvisit⟩
    intro look hlook
    rcases List.mem_cons.mp hlook with rfl | hrest
    · exact hheard
    · exact hlooks look hrest

end Monitor.Histories

/-! ## Notes -/

/-- A session that owns a link has heard a reading. -/
structure Note where
  ticket : Ticket
  reading : Reading
deriving DecidableEq

namespace Note

/-- The note with a number, which is how many were taken before it. -/
def at? (notes : List Note) (j : Nat) : Option Note := notes.reverse[j]?

/-- The number of the latest note for a ticket. -/
def latest? (k : Ticket) : List Note → Option Nat
  | [] => none
  | n :: older => if n.ticket = k then some older.length else latest? k older

variable {notes older : List Note} {n m : Note} {i j : Nat} {k : Ticket} {r : Reading}

theorem at?_length (n : Note) (older : List Note) : at? (n :: older) older.length = some n := by
  rw [at?, List.reverse_cons, ← List.length_reverse, List.getElem?_concat_length]

theorem lt_of_at? (h : at? notes j = some m) : j < notes.length := by
  have hlt := (List.getElem?_eq_some_iff.mp h).1
  rwa [List.length_reverse] at hlt

theorem at?_append (h : at? notes j = some m) (more : List Note) :
    at? (more ++ notes) j = some m := by
  have hlt := lt_of_at? h
  rw [at?, List.reverse_append, List.getElem?_append_left (by rwa [List.length_reverse])]
  exact h

theorem at?_of_cons (h : at? (n :: older) j = some m) (hj : j ≠ older.length) :
    at? older j = some m := by
  have hlt := lt_of_at? h
  rw [List.length_cons] at hlt
  rw [at?, List.reverse_cons, List.getElem?_append_left (by rw [List.length_reverse]; omega)] at h
  exact h

/-- A ticket that no note is for has no latest one. -/
theorem latest?_eq_none (h : ∀ n ∈ notes, n.ticket ≠ k) : latest? k notes = none := by
  induction notes with
  | nil => rfl
  | cons n older ih =>
    rw [latest?, if_neg (h n List.mem_cons_self)]
    exact ih fun m hm => h m (List.mem_cons_of_mem n hm)

/-- No note for a ticket is later than the latest. -/
theorem le_latest (hi : at? notes i = some ⟨k, r⟩) (hj : latest? k notes = some j) : i ≤ j := by
  -- from the latest note backwards, until one is for the ticket
  induction notes with
  | nil => cases hj
  | cons n older ih =>
    have hlt := lt_of_at? hi
    rw [List.length_cons] at hlt
    rw [latest?] at hj
    split at hj
    · cases hj
      omega
    next hother =>
      refine ih (at?_of_cons hi ?_) hj
      rintro rfl
      rw [at?_length] at hi
      cases hi
      exact hother rfl

end Note

/-- What is noted of an operation: the reading, if it reaches a session. -/
def Table.hears (t : Table) : Table.Operation → List Note
  | .updateReading id reading _ => ((t.find? id).bind Session.link).toList.map (⟨·, reading⟩)
  | _ => []

/-! ## Events and runs -/

/-- **A switchboard with its monitor.** -/
structure Monitored where
  board : Switchboard
  /-- What sessions have heard, the latest first. -/
  notes : List Note := []
  /-- The numbers of the notes that the monitor has seen. -/
  shown : List Nat := []
  /-- How many sessions were admitted. -/
  admitted : Nat := 0

namespace Monitored

inductive Event where
  | board (e : Switchboard.Event)
  /-- The monitor looks at the sessions. -/
  | check

def start (c : Config) : Monitored := { board := Switchboard.start c }

def table (w : Monitored) : Table := w.board.gateway.table

def histories (w : Monitored) : Histories := w.board.gateway.histories

/-- The sessions that a look reaches. -/
def heard (w : Monitored) : List Session := w.table.sessions.filter Histories.isHeard

/-- **What a look averages.** -/
def looks (w : Monitored) : List (Session × History) :=
  (w.histories.retain w.table.sessions).looks w.board.gateway.config.monitor.historySize w.heard

/-- The numbers of the notes that a look sees: the latest of each session that it reaches. -/
def seen (w : Monitored) : List Nat :=
  w.heard.filterMap fun s => s.link.bind (Note.latest? · w.notes)

def step (w : Monitored) : Event → Monitored
  | .board e =>
    let calls := (w.board.call? e).toList
    { w with
      board := w.board.step e
      notes := calls.flatMap w.table.hears ++ w.notes
      admitted := w.admitted + w.table.admissions calls }
  | .check =>
    { w with
      board := { w.board with gateway := w.board.gateway.check.2 }
      shown := w.seen ++ w.shown }

/-- **The switchboard and its monitor after a list of events,** the first one first. -/
def run (w : Monitored) (events : List Event) : Monitored := events.foldl step w

theorem run_snoc (w : Monitored) (events : List Event) (e : Event) :
    w.run (events ++ [e]) = (w.run events).step e := by
  rw [run, List.foldl_append]
  rfl

/-- **An admitted session gets a number of its own:** one that no registered session and no kept
history has. -/
def Fresh (w : Monitored) (e : Switchboard.Event) : Prop :=
  ∀ x now id, w.board.call? e = some (.insert x now) → (w.table.insert x now).1 = .ok id →
    id ∉ w.table.sessions.map (·.sensor) ∧ id ∉ w.histories.map (·.sensor)

def FreshAlong (w : Monitored) (events : List Event) : Prop :=
  ∀ front e, front ++ [Event.board e] <+: events → (w.run front).Fresh e

variable {w : Monitored}

/-! ## What an event does to table and histories -/

/-- An event calls one operation or none, and notes and count follow it. -/
theorem step_board (w : Monitored) (e : Switchboard.Event) :
    ((w.step (.board e)).table = w.table ∧ (w.step (.board e)).notes = w.notes
      ∧ (w.step (.board e)).admitted = w.admitted)
    ∨ ∃ op, w.board.call? e = some op ∧ (w.step (.board e)).table = w.table.apply op
      ∧ (w.step (.board e)).notes = w.table.hears op ++ w.notes
      ∧ (w.step (.board e)).admitted = w.admitted + w.table.admits op := by
  have htable : (w.step (.board e)).table = w.table.run (w.board.call? e).toList :=
    w.board.table_step e
  rcases hcall : w.board.call? e with _ | op
  · left
    rw [htable, hcall]
    simp only [step, hcall]
    exact ⟨rfl, rfl, rfl⟩
  · right
    refine ⟨op, rfl, ?_, ?_, ?_⟩
    · rw [htable, hcall]
      rfl
    · simp only [step, hcall, Option.toList_some, List.flatMap_singleton]
    · simp only [step, hcall]
      rfl

/-- The histories are the monitor's. -/
theorem histories_step (w : Monitored) (e : Switchboard.Event) :
    (w.step (.board e)).histories = w.histories := by
  show (w.board.step e).gateway.histories = w.board.gateway.histories
  -- neither a session that leaves nor a task that ends reaches the monitor
  have hleave : ∀ (g : Gateway) l sensor ticket,
      (g.leave l sensor ticket).2.1.histories = g.histories := by
    intro g l sensor ticket
    unfold Gateway.leave
    split
    · rfl
    · rfl
  have hlink : ∀ i f, (∀ g l, (f g l).2.1.histories = g.histories) →
      (w.board.onLink i f).gateway.histories = w.board.gateway.histories := by
    intro i f hf
    unfold Switchboard.onLink
    split
    · rfl
    · exact hf _ _
  cases e with
  | make => rfl
  | insert ticket x l now =>
    simp only [Switchboard.step]
    split
    · rfl
    · rfl
  | operate op => cases op <;> rfl
  | hangUp i =>
    refine hlink i _ fun g l => ?_
    unfold Gateway.hangUp
    split
    · rfl
    · rfl
    · exact hleave g _ _ _
    · rfl
  | breakDown i fault =>
    refine hlink i _ fun g l => ?_
    unfold Gateway.breakDown
    split
    · rfl
    · rfl
    · exact hleave g _ _ _
    · rfl
  | attend i =>
    refine hlink i _ fun g l => ?_
    unfold Gateway.attend
    split
    · split
      · rfl
      · rfl
    · rfl
  | stop => rfl

/-- A session that is inserted owns a spare link. -/
theorem spare_of_call? {e : Switchboard.Event} {x : Session} {now : Moment}
    (h : w.board.call? e = some (.insert x now)) : ∃ k ∈ w.board.spare, x.link = some k := by
  -- the operation of a link that parts takes a session out, and brings none in
  have hlink : ∀ i : Nat, w.board.links[i]?.bind Link.parting? ≠ some (.insert x now) := by
    intro i hbind
    obtain ⟨l, -, hparting⟩ := Option.bind_eq_some_iff.mp hbind
    have hnone := Switchboard.brings?_parting hparting
    cases hnone
  cases e with
  | make => cases h
  | insert ticket y l at' =>
    rw [Switchboard.call?] at h
    split at h
    next hspare =>
      cases h
      exact ⟨ticket, hspare, rfl⟩
    next => cases h
  | operate op => cases op <;> cases h
  | hangUp i => exact absurd h (hlink i)
  | breakDown i fault => exact absurd h (hlink i)
  | attend i => cases h
  | stop => cases h

/-! ## Sessions and their notes -/

/-- **The latest reading of a session is the one that was noted last for its link.** A session that
nothing was noted for has not measured yet. -/
def UpToDate (notes : List Note) (x : Session) : Prop :=
  ∀ k, x.link = some k → (Note.latest? k notes = none → x.latest.valid = false)
    ∧ ∀ j, Note.latest? k notes = some j → Note.at? notes j = some ⟨k, x.latest⟩

variable {t : Table} {notes : List Note}

/-- What others hear does not matter. -/
theorem UpToDate.cons {x : Session} (h : UpToDate notes x) {n : Note}
    (hother : x.link ≠ some n.ticket) : UpToDate (n :: notes) x := by
  intro k hk
  have hne : n.ticket ≠ k := by
    rintro rfl
    exact hother hk
  rw [Note.latest?, if_neg hne]
  refine ⟨(h k hk).1, fun j hj => ?_⟩
  exact Note.at?_append ((h k hk).2 j hj) [n]

/-- What a session hears is noted last for its link. -/
theorem upToDate_hear {x : Session} {k : Ticket} (hlink : x.link = some k) (reading : Reading)
    (now : Moment) : UpToDate (⟨k, reading⟩ :: notes) (x.hear reading now) := by
  intro k' hk'
  obtain rfl : k = k' := Option.some.inj (hlink.symm.trans hk')
  rw [Note.latest?, if_pos rfl]
  refine ⟨?_, ?_⟩
  · rintro ⟨⟩
  · rintro j ⟨⟩
    exact Note.at?_length _ _

/-- A reading that is noted is the latest of the session it reaches, and of no other. -/
theorem upToDate_updateReading (h : ∀ x ∈ t.sessions, UpToDate notes x)
    (hnodup : (t.sessions.filterMap Session.link).Nodup)
    (hlinked : ∀ x ∈ t.sessions, ∃ k, x.link = some k) (id : SensorId) (reading : Reading)
    (now : Moment) :
    ∀ x ∈ (t.updateReading id reading now).2.sessions,
      UpToDate (t.hears (.updateReading id reading now) ++ notes) x := by
  intro x hx
  rcases hfind : t.find? id with _ | s
  · have hsame : t.updateReading id reading now = (false, t) := by
      unfold Table.find? at hfind
      simp only [Table.updateReading, Roster.update?, hfind]
    rw [hsame] at hx
    simp only [Table.hears, hfind, Option.bind_none, Option.toList_none, List.map_nil,
      List.nil_append]
    exact h x hx
  · have hfirst : t.sessions.find? (·.sensor = id) = some s := hfind
    obtain ⟨k, hk⟩ := hlinked s (List.mem_of_find?_eq_some hfirst)
    have hhears : t.hears (.updateReading id reading now) = [⟨k, reading⟩] := by
      simp only [Table.hears, hfind, Option.bind_some, hk]
      rfl
    obtain ⟨front, back, hsessions, hadjusted⟩ :=
      Roster.adjustFirst_of_find? hfirst (·.hear reading now)
    -- the others have other links
    have hother : ∀ y ∈ front ++ back, y ∈ t.sessions ∧ y.link ≠ some k := by
      rw [hsessions, List.filterMap_append, List.filterMap_cons_some hk, List.nodup_middle,
        ← List.filterMap_append] at hnodup
      intro y hy
      refine ⟨?_, fun hlink => (List.nodup_cons.mp hnodup).1 (List.mem_filterMap.mpr ⟨y, hy, hlink⟩)⟩
      rw [hsessions]
      exact List.perm_middle.mem_iff.mpr (List.mem_cons_of_mem s hy)
    rw [t.sessions_updateReading, hadjusted, List.perm_middle.mem_iff] at hx
    rw [hhears]
    rcases List.mem_cons.mp hx with rfl | hrest
    · exact upToDate_hear hk reading now
    · obtain ⟨hmem, hlink⟩ := hother x hrest
      exact (h x hmem).cons hlink

/-- **An operation keeps the sessions up to date,** if a new session owns a link that nothing was
noted for. -/
theorem upToDate_apply (h : ∀ x ∈ t.sessions, UpToDate notes x)
    (hnodup : (t.sessions.filterMap Session.link).Nodup)
    (hlinked : ∀ x ∈ t.sessions, ∃ k, x.link = some k) {op : Table.Operation}
    (hnew : ∀ s now k, op = .insert s now → s.link = some k → Note.latest? k notes = none) :
    ∀ x ∈ (t.apply op).sessions, UpToDate (t.hears op ++ notes) x := by
  -- only an update is heard, and the other operations leave readings as they are
  have hdeaf : t.hears op = [] → (∀ id reading now, op ≠ .updateReading id reading now) →
      ∀ x ∈ (t.apply op).sessions, UpToDate (t.hears op ++ notes) x := by
    intro hnothing hnever
    rw [hnothing, List.nil_append]
    refine Table.keeps_apply h ?_ fun id reading now hop => absurd hop (hnever id reading now)
    intro s now hop hok k hk
    have hnone := hnew s now k hop hk
    refine ⟨fun _ => rfl, fun j hj => ?_⟩
    rw [hnone] at hj
    cases hj
  cases op with
  | updateReading id reading now => exact upToDate_updateReading h hnodup hlinked id reading now
  | insert s now => exact hdeaf rfl (by rintro id reading now ⟨⟩)
  | remove id => exact hdeaf rfl (by rintro id reading now ⟨⟩)
  | removeLink ticket => exact hdeaf rfl (by rintro id reading now ⟨⟩)
  | reapIdle steady timeout => exact hdeaf rfl (by rintro id reading now ⟨⟩)
  | clear => exact hdeaf rfl (by rintro id reading now ⟨⟩)
  | setRunningPort port => exact hdeaf rfl (by rintro id reading now ⟨⟩)

/-- **The notes tell what the sessions have heard.** -/
structure Noted (w : Monitored) : Prop where
  tied : w.board.Tied
  /-- Nothing is noted for a link that has not been inserted. -/
  given : ∀ n ∈ w.notes, n.ticket ∈ w.table.tickets
  upToDate : ∀ x ∈ w.table.sessions, UpToDate w.notes x

theorem noted_start (c : Config) : (start c).Noted where
  tied := Switchboard.tied_start c
  given := by rintro n ⟨⟩
  upToDate := by rintro x ⟨⟩

/-- An operation that a step calls keeps the notes right: a session comes in with a spare link, and
a spare link has no notes. -/
theorem Noted.call (h : w.Noted) {e : Switchboard.Event} {op : Table.Operation}
    (hcall : w.board.call? e = some op) (htable : (w.step (.board e)).table = w.table.apply op)
    (hnotes : (w.step (.board e)).notes = w.table.hears op ++ w.notes) :
    (w.step (.board e)).Noted := by
  have hnodup := (List.nodup_append.mp h.tied.nodup).1
  refine ⟨h.tied.step e, ?_, ?_⟩
  · -- tickets are lost nowhere, and a session that hears has its own in the table
    have hmoved := w.table.tickets_apply op
    have hkept : ∀ k ∈ w.table.tickets, k ∈ (w.table.apply op).tickets := fun k hk =>
      hmoved.mem_iff.mpr (List.mem_append_left _ hk)
    rw [htable, hnotes]
    intro n hn
    rcases List.mem_append.mp hn with hheard | hold
    · cases op with
      | updateReading id reading now =>
        obtain ⟨k, hk, rfl⟩ := List.mem_map.mp hheard
        obtain ⟨x, hfind, hlink⟩ := Option.bind_eq_some_iff.mp (Option.mem_toList.mp hk)
        refine hkept k (List.mem_append_left _ (List.mem_filterMap.mpr ⟨x, ?_, hlink⟩))
        exact List.mem_of_find?_eq_some hfind
      | insert s now => cases hheard
      | remove id => cases hheard
      | removeLink ticket => cases hheard
      | reapIdle steady timeout => cases hheard
      | clear => cases hheard
      | setRunningPort port => cases hheard
    · exact hkept n.ticket (h.given n hold)
  · rw [htable, hnotes]
    refine upToDate_apply h.upToDate hnodup h.tied.linked ?_
    rintro s now k rfl hk
    obtain ⟨ticket, hspare, hlink⟩ := spare_of_call? hcall
    obtain rfl : ticket = k := Option.some.inj (hlink.symm.trans hk)
    refine Note.latest?_eq_none fun n hn hticket => ?_
    have hplaces := h.tied.tickets.nodup_iff.mpr List.nodup_range
    exact (List.nodup_append.mp hplaces).2.2 n.ticket (h.given n hn) ticket hspare hticket

/-- Each event keeps the notes right. -/
theorem Noted.step (h : w.Noted) (e : Event) : (w.step e).Noted := by
  rcases e with e | _
  · rcases w.step_board e with ⟨htable, hnotes, -⟩ | ⟨op, hcall, htable, hnotes, -⟩
    · refine ⟨h.tied.step e, ?_, ?_⟩
      · rw [htable, hnotes]
        exact h.given
      · rw [htable, hnotes]
        exact h.upToDate
    · exact h.call hcall htable hnotes
  · exact ⟨⟨h.tied.tickets, h.tied.linked⟩, h.given, h.upToDate⟩

theorem noted_run (c : Config) (events : List Event) : ((start c).run events).Noted := by
  induction events using List.reverseRecOn with
  | nil => exact noted_start c
  | append_singleton events e ih =>
    rw [run_snoc]
    exact ih.step e

/-- What a look reaches has been noted, and the look sees it. -/
theorem Noted.seen (h : w.Noted) {s : Session} (hs : s ∈ w.heard) :
    ∃ k j, s.link = some k ∧ Note.latest? k w.notes = some j
      ∧ Note.at? w.notes j = some ⟨k, s.latest⟩ ∧ j ∈ w.seen := by
  obtain ⟨hmem, hheard⟩ := List.mem_filter.mp hs
  obtain ⟨k, hk⟩ := h.tied.linked s hmem
  obtain ⟨hnone, hsome⟩ := h.upToDate s hmem k hk
  rcases hlatest : Note.latest? k w.notes with _ | j
  · have hvalid := hnone hlatest
    simp only [Histories.isHeard, hvalid, Bool.and_false] at hheard
    cases hheard
  · refine ⟨k, j, hk, hlatest, hsome j hlatest, List.mem_filterMap.mpr ⟨s, hs, ?_⟩⟩
    rw [hk]
    exact hlatest

/-! ## Histories and their owners -/

/-- **A history is drawn from what was noted for a link:** its samples are the temperatures of some
of these notes, in their order and each one once, and the monitor has seen them all. -/
structure Drawn (notes : List Note) (shown : List Nat) (k : Ticket) (h : History)
    (counted : List (Nat × Reading)) : Prop where
  increasing : (counted.map (·.1)).Pairwise (· < ·)
  noted : ∀ n ∈ counted, Note.at? notes n.1 = some ⟨k, n.2⟩ ∧ n.1 ∈ shown
  samples : h.samples = counted.map (·.2.temperature)
  /-- The time stamp is that of the last one. -/
  last : ∀ stamp, h.lastSeen = some stamp →
    ∃ n ∈ counted, n.2.timestamp = stamp ∧ ∀ m ∈ counted, m.1 ≤ n.1
  empty : h.lastSeen = none → counted = []

variable {shown : List Nat} {k : Ticket} {h : History} {counted : List (Nat × Reading)}

theorem drawn_new (notes : List Note) (shown : List Nat) (k : Ticket) (id : SensorId) :
    Drawn notes shown k { sensor := id } [] where
  increasing := .nil
  noted := by rintro n ⟨⟩
  samples := rfl
  last := by rintro stamp ⟨⟩
  empty := fun _ => rfl

/-- More notes, and more of them seen, take nothing from a history. -/
theorem Drawn.mono (hd : Drawn notes shown k h counted) (more : List Note) {shown' : List Nat}
    (hshown : ∀ j ∈ shown, j ∈ shown') : Drawn (more ++ notes) shown' k h counted where
  increasing := hd.increasing
  noted := fun n hn => ⟨Note.at?_append (hd.noted n hn).1 more, hshown _ (hd.noted n hn).2⟩
  samples := hd.samples
  last := hd.last
  empty := hd.empty

/-- **A reading counts once.** The latest one of the link is accepted only if it is later than all
that were accepted, because the last of them has another time stamp. -/
theorem Drawn.push (hd : Drawn notes shown k h counted) {j : Nat} {r : Reading}
    (hlatest : Note.latest? k notes = some j) (hj : Note.at? notes j = some ⟨k, r⟩)
    (hshown : j ∈ shown) (capacity : Nat) :
    ∃ counted', Drawn notes shown k (h.push capacity r) counted' := by
  by_cases hold : h.lastSeen = some r.timestamp
  · rw [History.push, if_pos hold]
    exact ⟨counted, hd⟩
  · -- the last accepted one was noted before `j`: it is not later than the latest, and not `j`
    -- itself
    have hlater : ∀ n ∈ counted, n.1 < j := by
      intro n hn
      rcases hseen : h.lastSeen with _ | stamp
      · rw [hd.empty hseen] at hn
        cases hn
      · obtain ⟨⟨i, r'⟩, hi, hstamp, hlast⟩ := hd.last stamp hseen
        have hat := (hd.noted _ hi).1
        have hle := Note.le_latest hat hlatest
        have hne : i ≠ j := by
          rintro rfl
          obtain rfl : r' = r := congrArg Note.reading (Option.some.inj (hat.symm.trans hj))
          exact hold (hseen.trans (congrArg some hstamp.symm))
        have hni : n.1 ≤ i := hlast n hn
        omega
    -- at full length the oldest one goes
    let kept := if h.samples.length = capacity then counted.drop 1 else counted
    have hkept : kept.Sublist counted := by
      show (if h.samples.length = capacity then counted.drop 1 else counted).Sublist counted
      split
      · exact List.drop_sublist 1 counted
      · exact List.Sublist.refl counted
    have hroom : History.makeRoom capacity h.samples = kept.map (·.2.temperature) := by
      show _ = (if h.samples.length = capacity then counted.drop 1 else counted).map _
      rw [History.makeRoom]
      split
      · rw [hd.samples, List.map_drop]
      · exact hd.samples
    rw [History.push, if_neg hold]
    refine ⟨kept ++ [(j, r)], ?_, ?_, ?_, ?_, ?_⟩
    · rw [List.map_append, List.pairwise_append]
      refine ⟨hd.increasing.sublist (hkept.map _), List.pairwise_singleton _ _, ?_⟩
      intro i hi i' hi'
      obtain ⟨n, hn, rfl⟩ := List.mem_map.mp hi
      obtain rfl : i' = j := List.mem_singleton.mp hi'
      exact hlater n (hkept.subset hn)
    · intro n hn
      rcases List.mem_append.mp hn with hn | hn
      · exact hd.noted n (hkept.subset hn)
      · obtain rfl : n = (j, r) := List.mem_singleton.mp hn
        exact ⟨hj, hshown⟩
    · show History.makeRoom capacity h.samples ++ [r.temperature] = _
      rw [hroom, List.map_append]
      rfl
    · rintro stamp ⟨⟩
      refine ⟨(j, r), List.mem_append_right _ (List.mem_singleton.mpr rfl), rfl, fun n hn => ?_⟩
      rcases List.mem_append.mp hn with hn | hn
      · exact Nat.le_of_lt (hlater n (hkept.subset hn))
      · obtain rfl : n = (j, r) := List.mem_singleton.mp hn
        exact Nat.le_refl j
    · rintro ⟨⟩

/-- **A history belongs to one link,** that of every registered session with its number. -/
def Owned (sessions : List Session) (notes : List Note) (shown : List Nat) (h : History) : Prop :=
  ∃ k counted, (∀ x ∈ sessions, x.sensor = h.sensor → x.link = some k)
    ∧ Drawn notes shown k h counted

/-- **Different sessions have different numbers,** and a history is that of one of them or of none. -/
structure Separate (w : Monitored) : Prop where
  distinct : (w.table.sessions.map (·.sensor)).Nodup
  owned : ∀ h ∈ w.histories, Owned w.table.sessions w.notes w.shown h

theorem separate_start (c : Config) : (start c).Separate where
  distinct := .nil
  owned := by rintro h ⟨⟩

/-- The events of the switchboard keep sessions separate, if nobody is given a number in use. -/
theorem Separate.board (h : w.Separate) {e : Switchboard.Event} (hfresh : w.Fresh e) :
    (w.step (.board e)).Separate := by
  rcases w.step_board e with ⟨htable, hnotes, -⟩ | ⟨op, hcall, htable, hnotes, -⟩
  · refine ⟨?_, ?_⟩
    · rw [htable]
      exact h.distinct
    · rw [htable, hnotes, histories_step]
      exact h.owned
  · refine ⟨?_, ?_⟩
    · rw [htable]
      refine Table.nodup_sensors_apply h.distinct ?_
      rintro s now id rfl hok
      exact (hfresh s now id hcall hok).1
    · rw [htable, hnotes, histories_step]
      intro x hx
      obtain ⟨k, counted, howner, hdrawn⟩ := h.owned x hx
      refine ⟨k, counted, ?_, hdrawn.mono _ fun j hj => hj⟩
      refine Table.keeps_apply howner ?_ fun id reading now hop y hy => hy
      -- nobody comes in with the number of a history
      rintro s now rfl hok hsame
      refine absurd ?_ (hfresh s now _ hcall hok).2
      exact List.mem_map.mpr ⟨x, hx, hsame.symm⟩

/-- What the latest reading of a session makes of its history is a history of the session. -/
theorem Separate.push (h : w.Separate) (hn : w.Noted) {s : Session} (hs : s ∈ w.heard)
    {x : History} (hsensor : x.sensor = s.sensor)
    (hx : x = { sensor := s.sensor } ∨ Owned w.table.sessions w.notes (w.seen ++ w.shown) x)
    (capacity : Nat) :
    Owned w.table.sessions w.notes (w.seen ++ w.shown) (x.push capacity s.latest) := by
  obtain ⟨k, j, hk, hlatest, hat, hseen⟩ := hn.seen hs
  have hmem : s ∈ w.table.sessions := (List.mem_filter.mp hs).1
  have hshown : j ∈ w.seen ++ w.shown := List.mem_append_left _ hseen
  -- numbers are distinct, so this session is the only one that owns the history
  have honly : ∀ y ∈ w.table.sessions, y.sensor = (x.push capacity s.latest).sensor →
      y.link = some k := by
    intro y hy hsame
    rw [Histories.sensor_push, hsensor] at hsame
    obtain rfl := List.inj_on_of_nodup_map h.distinct hy hmem hsame
    exact hk
  rcases hx with rfl | ⟨k', counted, howner, hdrawn⟩
  · obtain ⟨counted, hdrawn⟩ := (drawn_new w.notes _ k s.sensor).push hlatest hat hshown capacity
    exact ⟨k, counted, honly, hdrawn⟩
  · obtain rfl : k = k' := Option.some.inj (hk.symm.trans (howner s hmem hsensor.symm))
    obtain ⟨counted, hdrawn⟩ := hdrawn.push hlatest hat hshown capacity
    exact ⟨k, counted, honly, hdrawn⟩

/-- A look averages histories of the sessions it reaches, and keeps such. -/
theorem Separate.visit (h : w.Separate) (hn : w.Noted) :
    (∀ look ∈ w.looks, Owned w.table.sessions w.notes (w.seen ++ w.shown) look.2)
      ∧ (w.step .check).Separate := by
  have hkept : ∀ x ∈ w.histories.retain w.table.sessions,
      Owned w.table.sessions w.notes (w.seen ++ w.shown) x := by
    intro x hx
    obtain ⟨k, counted, howner, hdrawn⟩ := h.owned x (List.mem_filter.mp hx).1
    exact ⟨k, counted, howner, hdrawn.mono [] fun j hj => List.mem_append_right _ hj⟩
  obtain ⟨hlooks, hvisit⟩ := Histories.forall_visit w.board.gateway.band hkept
    fun s hs x hsensor hx => h.push hn hs hsensor hx w.board.gateway.config.monitor.historySize
  exact ⟨hlooks, h.distinct, hvisit⟩

/-- So sessions are separate after any events, as long as every admitted one got a number of its
own. -/
theorem separate_run {c : Config} {events : List Event} (hfresh : FreshAlong (start c) events) :
    ((start c).run events).Separate := by
  induction events using List.reverseRecOn with
  | nil => exact separate_start c
  | append_singleton events e ih =>
    have hbefore : FreshAlong (start c) events := fun front e' hfront =>
      hfresh front e' (hfront.trans (List.prefix_append _ _))
    rw [run_snoc]
    rcases e with e | _
    · exact (ih hbefore).board (hfresh events e (List.prefix_refl _))
    · exact ((ih hbefore).visit (noted_run c events)).2

/-! ## The monotonic policy -/

/-- **Numbers come from the counter,** those of the sessions and those of the histories. -/
structure Numbered (w : Monitored) : Prop where
  counts : w.table.CountsUp w.admitted
  histories : ∀ h ∈ w.histories, ∃ i < w.admitted, h.sensor = Table.numberAt i

theorem numbered_start {c : Config} (h : c.session.idPolicy = .monotonic) : (start c).Numbered where
  counts := ⟨h, rfl, [], .nil, by rintro i ⟨⟩, rfl⟩
  histories := by rintro x ⟨⟩

theorem Numbered.sensor (h : w.Numbered) {id : SensorId}
    (hid : id ∈ w.table.sessions.map (·.sensor)) : ∃ i < w.admitted, id = Table.numberAt i := by
  obtain ⟨given, -, hbound, hsensors⟩ := h.counts.numbers
  rw [hsensors] at hid
  obtain ⟨i, hi, rfl⟩ := List.mem_map.mp hid
  exact ⟨i, hbound i hi, rfl⟩

/-- Each event keeps that: admissions take the next number, and a look makes histories of sessions
only. -/
theorem Numbered.step (h : w.Numbered) (e : Event) : (w.step e).Numbered := by
  rcases e with e | _
  · rcases w.step_board e with ⟨htable, -, hadmitted⟩ | ⟨op, -, htable, -, hadmitted⟩
    · refine ⟨?_, ?_⟩
      · rw [htable, hadmitted]
        exact h.counts
      · rw [histories_step, hadmitted]
        exact h.histories
    · refine ⟨?_, ?_⟩
      · rw [htable, hadmitted]
        exact h.counts.apply op
      · rw [histories_step, hadmitted]
        intro x hx
        obtain ⟨i, hi, hsensor⟩ := h.histories x hx
        exact ⟨i, Nat.lt_add_right _ hi, hsensor⟩
  · refine ⟨h.counts, ?_⟩
    have hkept : ∀ x ∈ w.histories.retain w.table.sessions,
        ∃ i < w.admitted, x.sensor = Table.numberAt i := fun x hx =>
      h.histories x (List.mem_filter.mp hx).1
    refine (Histories.forall_visit w.board.gateway.band hkept fun s hs x hsensor hx => ?_).2
    rw [Histories.sensor_push, hsensor]
    exact h.sensor (List.mem_map_of_mem (List.mem_filter.mp hs).1)

theorem admitted_step (w : Monitored) (e : Event) : w.admitted ≤ (w.step e).admitted := by
  rcases e with e | _
  · exact Nat.le_add_right _ _
  · exact Nat.le_refl _

theorem admitted_run (w : Monitored) (events : List Event) :
    w.admitted ≤ (w.run events).admitted := by
  induction events generalizing w with
  | nil => exact Nat.le_refl _
  | cons e events ih => exact Nat.le_trans (w.admitted_step e) (ih (w.step e))

/-- The next number of the counter is that of nobody, until it starts again. -/
theorem Numbered.fresh (h : w.Numbered) {e : Switchboard.Event}
    (hfew : (w.step (.board e)).admitted ≤ UInt32.size) : w.Fresh e := by
  intro x now id hcall hok
  have hid : id = Table.numberAt w.admitted := by
    rcases Table.insert_cases w.table x now with ⟨-, heq⟩ | ⟨l, existing, -, -, heq⟩ | ⟨l, -, -, heq⟩
    · rw [heq] at hok
      cases hok
    · rw [heq] at hok
      cases hok
    · rw [heq] at hok
      cases hok
      simp only [Roster.assignedId, h.counts.policy, h.counts.nextId]
      rfl
  have hadmitted : (w.step (.board e)).admitted = w.admitted + 1 := by
    simp only [Monitored.step, hcall, Option.toList_some, Table.admissions, Table.sumAlong,
      Table.admits, hok]
  -- below the size of the counter two admissions have different numbers
  have hnew : ¬ ∃ i < w.admitted, id = Table.numberAt i := by
    rintro ⟨i, hi, hsame⟩
    rw [hid] at hsame
    have heq := Table.eq_of_numberAt (by omega) (by omega) hsame
    omega
  refine ⟨fun hmem => hnew (h.sensor hmem), fun hmem => hnew ?_⟩
  obtain ⟨y, hy, rfl⟩ := List.mem_map.mp hmem
  exact h.histories y hy

theorem numbered_run {c : Config} (h : c.session.idPolicy = .monotonic) (events : List Event) :
    ((start c).run events).Numbered := by
  induction events using List.reverseRecOn with
  | nil => exact numbered_start h
  | append_singleton events e ih =>
    rw [run_snoc]
    exact ih.step e

/-- **Under the monotonic policy every admitted session gets a number of its own,** until the counter
has given out all there are. -/
theorem freshAlong_of_monotonic {c : Config} (h : c.session.idPolicy = .monotonic)
    {events : List Event} (hfew : ((start c).run events).admitted ≤ UInt32.size) :
    FreshAlong (start c) events := by
  rintro front e ⟨back, rfl⟩
  refine (numbered_run h front).fresh ?_
  have hrest := ((start c).run (front ++ [.board e])).admitted_run back
  rw [run_snoc] at hrest
  rw [run, List.foldl_append] at hfew
  -- what is admitted up to the event is not more than what is admitted in the end
  refine Nat.le_trans hrest (Nat.le_trans (Nat.le_of_eq ?_) hfew)
  rw [← run_snoc]
  rfl

/-- **Averages never mix sessions, as long as each has a number of its own.** For any settings, after
any events on a new gateway, about the next look of the monitor. It reaches the active sessions that
have measured, its alerts are those of the averages it takes, one for each of them, and what it sees
of a session is the latest reading that was noted for its link. If every admitted session has got a
number that no registered session and no kept history had, an average is taken over readings that
were noted for the link of that very session, each of them once and in their order, and each of them
the latest of the session at this look or an earlier one; the last of them has the time stamp of the
latest. Under the monotonic policy that is so until the counter has given out all numbers. -/
theorem averages_of_own_readings (c : Config) (events : List Event) :
    let w := (start c).run events
    w.looks.map (·.1) = w.heard
      ∧ w.board.gateway.check.1 = w.looks.flatMap (fun look =>
        (w.board.gateway.band.alert? look.1.sensor look.2.average).toList)
      ∧ (∀ s ∈ w.heard, ∃ k j, s.link = some k ∧ Note.latest? k w.notes = some j
        ∧ Note.at? w.notes j = some ⟨k, s.latest⟩ ∧ j ∈ w.seen)
      ∧ (FreshAlong (start c) events → ∀ look ∈ w.looks,
        ∃ (k : Ticket) (counted : List (Nat × Reading)), look.1.link = some k
          ∧ look.2.samples = counted.map (·.2.temperature)
          ∧ (counted.map (·.1)).Pairwise (· < ·)
          ∧ (∀ n ∈ counted, Note.at? w.notes n.1 = some ⟨k, n.2⟩ ∧ n.1 ∈ w.seen ++ w.shown)
          ∧ ∃ n ∈ counted, n.2.timestamp = look.1.latest.timestamp ∧ ∀ m ∈ counted, m.1 ≤ n.1)
      ∧ (c.session.idPolicy = .monotonic → w.admitted ≤ UInt32.size →
        FreshAlong (start c) events) := by
  intro w
  have hnoted : w.Noted := noted_run c events
  refine ⟨?_, ?_, fun s hs => hnoted.seen hs, ?_, fun hpolicy hfew =>
    freshAlong_of_monotonic hpolicy hfew⟩
  · exact Histories.looks_fst _ _ _
  · exact Histories.visit_fst _ _ _ _
  · intro hfresh look hlook
    obtain ⟨hmem, hsensor, hstamp⟩ := Histories.mem_looks hlook
    obtain ⟨k, counted, howner, hdrawn⟩ := ((separate_run hfresh).visit hnoted).1 look hlook
    have hlink := howner look.1 (List.mem_filter.mp hmem).1 hsensor.symm
    exact ⟨k, counted, hlink, hdrawn.samples, hdrawn.increasing, hdrawn.noted,
      hdrawn.last _ hstamp⟩

/-- A session has measured twice, and both readings were looked at. -/
theorem averages_of_own_readings_of_two :
    let x := Session.start "10.0.0.1" "10.0.0.1" 1 false 0 ⟨0, 0⟩
    let l : Link := { peer := ⟨.v4 ⟨10, 0, 0, 1⟩, 0, 40000⟩, secure := false, stage := .ended }
    let measure (second degrees : Int) : Event :=
      .board (.operate (.updateReading ⟨0⟩ ⟨second, ⟨0⟩, Binary.ofInt degrees, true⟩ ⟨0, 0⟩))
    let events : List Event :=
      [.board .make, .board (.insert 0 x l ⟨0, 0⟩), measure 1 20, .check, measure 2 30]
    let w := (start {}).run events
    FreshAlong (start {}) events ∧ w.looks.length = 1 ∧ ∀ look ∈ w.looks,
      ∃ (k : Ticket) (counted : List (Nat × Reading)), look.1.link = some k
        ∧ look.2.samples = counted.map (·.2.temperature)
        ∧ (counted.map (·.1)).Pairwise (· < ·)
        ∧ (∀ n ∈ counted, Note.at? w.notes n.1 = some ⟨k, n.2⟩ ∧ n.1 ∈ w.seen ++ w.shown)
        ∧ ∃ n ∈ counted, n.2.timestamp = look.1.latest.timestamp ∧ ∀ m ∈ counted, m.1 ≤ n.1 := by
  intro x l measure events w
  obtain ⟨-, -, -, hown, hmonotonic⟩ := averages_of_own_readings {} events
  have hfresh : FreshAlong (start {}) events := hmonotonic rfl (by decide)
  exact ⟨hfresh, by decide, hown hfresh⟩

/-- A session has measured 90 degrees and left, and a new one gets its number before the monitor
looks again. It has measured 20 degrees, and its average is over both. -/
theorem average_over_departed_session :
    let node (port : UInt16) := Session.start "10.0.0.1" "10.0.0.1" port false 0 ⟨0, 0⟩
    let l : Link := { peer := ⟨.v4 ⟨10, 0, 0, 1⟩, 0, 40000⟩, secure := false, stage := .ended }
    let measure (second degrees : Int) : Event :=
      .board (.operate (.updateReading ⟨0⟩ ⟨second, ⟨0⟩, Binary.ofInt degrees, true⟩ ⟨0, 0⟩))
    let w := (start { session := { idPolicy := .reuseSlot } }).run
      [.board .make, .board (.insert 0 (node 1) l ⟨0, 0⟩), measure 1 90, .check,
        .board (.operate (.remove ⟨0⟩)), .board .make, .board (.insert 1 (node 2) l ⟨0, 0⟩),
        measure 2 20]
    (∃ look ∈ w.looks, look.1.link = some 1 ∧ Binary.ofInt 90 ∈ look.2.samples
        ∧ ∀ n ∈ w.notes, n.ticket = 1 → n.reading.temperature = Binary.ofInt 20)
      ∧ w.board.gateway.check.1 = [.overheating ⟨0⟩ (Binary.ofInt 55)] := by
  decide

end Monitored

end SensorGateway
