import SensorGateway.Proofs.Storage.Batch

/-!
What becomes of the readings in the queue.

`Delivery` is a queue with the drain that is under way, if any. A drain has three steps: it copies
what waits, offers the copy to the database, and takes out what a commit has stored; anything but
another drain may come between. Two records are kept beside the queue: the readings that were ever
appended, and those that the database has kept.

Readings may be equal, so they are followed by their numbers in the order of appending. `Places`
says which numbers wait and which were written. It is kept up by the two things that ever happen to
it, an appended reading and a committed batch; between the commit and the taking out it speaks of
the queue as it will be, since a row is in the database before its reading is out of the queue. From
this `each_reading_once` follows for every run.
-/

set_option autoImplicit false

namespace SensorGateway.Storage

/-! ## Runs -/

/-- How far a drain has come. -/
inductive Draining where
  | idle
  /-- What waited has been copied; `cycling` says that a failure is to close the database. -/
  | offering (batch : List Reading) (cycling : Bool)
  /-- The batch was committed, and its readings are still in the queue. -/
  | settling (tally : Queue.Tally)

/-- **A queue at work.** -/
structure Delivery where
  queue : Queue
  stage : Draining := .idle
  /-- All readings that were appended, the first one first. -/
  enqueued : List Reading := []
  /-- The readings whose inserts were committed, in that order. -/
  rows : List Reading := []

/-- What can happen to a queue. -/
inductive Event where
  | enqueue (r : Reading)
  | tryConnect (attempt : Except Fault Connection) (wall : Int)
  | close
  /-- A drain copies what waits. -/
  | drain
  /-- A cycle connects and copies what waits. -/
  | cycle (attempt : Except Fault Connection) (wall : Int)
  /-- The drain under way offers its batch. -/
  | answer (verdicts : Verdicts)
  /-- The drain under way takes out what was stored. -/
  | settle

namespace Delivery

/-- A new queue. -/
def new (settings : QueueSettings) : Delivery := { queue := { settings } }

/-- A cycle connects, and then copies what waits. -/
def beginCycle (d : Delivery) (attempt : Except Fault Connection) (wall : Int) : Delivery :=
  match d.queue.tryConnect attempt wall with
  | (.ok (), q, _) => { d with queue := q, stage := .offering q.pending true }
  | (.error _, q, _) => { d with queue := q }

/-- A batch is offered. -/
def answered (d : Delivery) (batch : List Reading) (cycling : Bool) (v : Verdicts) : Delivery :=
  let rows := d.rows ++ d.queue.writtenBy batch v
  match d.queue.offer batch v with
  | (.ok t, q, _) => { d with queue := q, stage := .settling t, rows }
  | (.error _, q, _) =>
    { d with queue := if cycling then q.close.1 else q, stage := .idle, rows }

/-- The delivery after one event. An event that does not fit the stage is none: there is one drain
at a time. -/
def step (d : Delivery) : Event → Delivery
  | .enqueue r => { d with queue := d.queue.enqueue r, enqueued := d.enqueued ++ [r] }
  | .tryConnect attempt wall => { d with queue := (d.queue.tryConnect attempt wall).2.1 }
  | .close => { d with queue := d.queue.close.1 }
  | .drain =>
    match d.stage with
    | .idle => { d with stage := .offering d.queue.pending false }
    | _ => d
  | .cycle attempt wall =>
    match d.stage with
    | .idle => d.beginCycle attempt wall
    | _ => d
  | .answer verdicts =>
    match d.stage with
    | .offering batch cycling => d.answered batch cycling verdicts
    | _ => d
  | .settle =>
    match d.stage with
    | .settling t => { d with queue := d.queue.settle t, stage := .idle }
    | _ => d

/-- **The delivery after a list of events,** the first one first. -/
def run (d : Delivery) (events : List Event) : Delivery := events.foldl step d

/-- A drain that nothing comes between is the drain of the queue. -/
theorem run_drain {d : Delivery} (h : d.stage = .idle) (v : Verdicts) :
    (d.run [.drain, .answer v, .settle]).queue = (d.queue.drain v).2.1 := by
  simp only [run, List.foldl_cons, List.foldl_nil, step, h, answered, Queue.drain]
  rcases hoffer : d.queue.offer d.queue.pending v with ⟨e | t, q, notices⟩
  · rfl
  · rfl

/-- A cycle that nothing comes between is the cycle of the queue. -/
theorem run_cycle {d : Delivery} (h : d.stage = .idle) (a : Queue.Answers) (wall : Int) :
    (d.run [.cycle a.attempt wall, .answer a.verdicts, .settle]).queue
      = (d.queue.cycle a wall).2.1 := by
  simp only [run, List.foldl_cons, List.foldl_nil, step, h, beginCycle]
  -- a cycle that is connected already makes no attempt, and its answer to one is not read
  rcases hstatus : d.queue.status
  · have hconnect : d.queue.tryConnect a.attempt wall = (.ok (), d.queue, []) := by
      simp only [Queue.tryConnect, hstatus]
    simp only [hconnect, answered, Queue.cycle, hstatus, Queue.drain]
    rcases hoffer : d.queue.offer d.queue.pending a.verdicts with ⟨e | t, q, notices⟩
    · rfl
    · rfl
  · rcases hconnect : d.queue.tryConnect a.attempt wall with ⟨e | _, q, notices⟩
    · simp only [Queue.cycle, hstatus, hconnect]
      split
      · rfl
      · rfl
    · simp only [answered, Queue.cycle, hstatus, hconnect, Queue.drain]
      rcases hoffer : q.offer q.pending a.verdicts with ⟨e | t, q', more⟩
      · rfl
      · rfl

/-- An answer appends what the database has kept of the batch, whether or not the drain succeeds. -/
theorem rows_answered (d : Delivery) (batch : List Reading) (cycling : Bool) (v : Verdicts) :
    (d.answered batch cycling v).rows = d.rows ++ d.queue.writtenBy batch v := by
  unfold answered
  rcases d.queue.offer batch v with ⟨e | t, q, notices⟩
  · rfl
  · rfl

/-- What was written stays in front. -/
theorem rows_step (d : Delivery) (e : Event) : d.rows <+: (d.step e).rows := by
  cases e with
  | enqueue r => exact List.prefix_refl _
  | tryConnect attempt wall => exact List.prefix_refl _
  | close => exact List.prefix_refl _
  | drain =>
    simp only [step]
    split
    · exact List.prefix_refl _
    · exact List.prefix_refl _
  | cycle attempt wall =>
    simp only [step, beginCycle]
    split
    · split
      · exact List.prefix_refl _
      · exact List.prefix_refl _
    · exact List.prefix_refl _
  | answer v =>
    simp only [step]
    split
    · rw [rows_answered]
      exact List.prefix_append _ _
    · exact List.prefix_refl _
  | settle =>
    simp only [step]
    split
    · exact List.prefix_refl _
    · exact List.prefix_refl _

theorem rows_run (d : Delivery) (events : List Event) : d.rows <+: (d.run events).rows := by
  induction events generalizing d with
  | nil => exact List.prefix_refl _
  | cons e es ih => exact (d.rows_step e).trans (ih (d.step e))

end Delivery

/-! ## Places -/

/-- **Where the readings are.** Each number of a reading that was appended stands once in one of two
lists: those that wait, which increase, and those that were written. -/
structure Places (enqueued pending rows : List Reading) (waiting written : List Nat) : Prop where
  once : (waiting ++ written).Perm (List.range enqueued.length)
  increasing : waiting.Pairwise (· < ·)
  waits : waiting.map (enqueued[·]?) = pending.map some
  wrote : written.map (enqueued[·]?) = rows.map some
  inOrder : pending.Sublist enqueued

namespace Places

variable {enqueued pending rows : List Reading} {waiting written : List Nat}

theorem lt_length (h : Places enqueued pending rows waiting written) {i : Nat}
    (hi : i ∈ waiting ∨ i ∈ written) : i < enqueued.length := by
  have hmem : i ∈ waiting ++ written := List.mem_append.mpr hi
  exact List.mem_range.mp (h.once.mem_iff.mp hmem)

theorem length_waiting (h : Places enqueued pending rows waiting written) :
    waiting.length = pending.length := by
  have hlen := congrArg List.length h.waits
  rwa [List.length_map, List.length_map] at hlen

theorem length_written (h : Places enqueued pending rows waiting written) :
    written.length = rows.length := by
  have hlen := congrArg List.length h.wrote
  rwa [List.length_map, List.length_map] at hlen

/-- No reading is lost: as many wait or were written as were appended. -/
theorem length_eq (h : Places enqueued pending rows waiting written) :
    rows.length + pending.length = enqueued.length := by
  have hlen := h.once.length_eq
  rw [List.length_append, List.length_range, h.length_waiting, h.length_written] at hlen
  omega

/-- What waits and what was written is what was appended. -/
theorem perm (h : Places enqueued pending rows waiting written) :
    (pending ++ rows).Perm enqueued := by
  have hrange : (List.range enqueued.length).map (enqueued[·]?) = enqueued.map some := by
    refine List.ext_getElem (by simp) fun i hi hi' => ?_
    simp
  -- the numbers are exchanged for the readings at them, which turns the one fact into the other
  have hmoved := h.once.map (enqueued[·]?)
  rw [List.map_append, h.waits, h.wrote, hrange, ← List.map_append] at hmoved
  have hplain := hmoved.filterMap id
  simpa [List.filterMap_map] using hplain

theorem nil : Places [] [] [] [] [] :=
  ⟨List.Perm.refl [], List.Pairwise.nil, rfl, rfl, List.Sublist.refl []⟩

/-- What stands at a number does not change when a reading is appended. -/
theorem map_getElem?_append {numbers : List Nat} (r : Reading)
    (h : ∀ i ∈ numbers, i < enqueued.length) :
    numbers.map ((enqueued ++ [r])[·]?) = numbers.map (enqueued[·]?) := by
  apply List.map_congr_left
  intro i hi
  exact List.getElem?_append_left (h i hi)

/-- **An appended reading waits,** behind all others. -/
theorem enqueue (h : Places enqueued pending rows waiting written) (r : Reading) :
    Places (enqueued ++ [r]) (pending ++ [r]) rows (waiting ++ [enqueued.length]) written where
  once := by
    have hrange : List.range (enqueued ++ [r]).length
        = List.range enqueued.length ++ [enqueued.length] := by
      rw [List.length_append, List.length_singleton, List.range_succ]
    rw [hrange, List.append_assoc]
    have hswap : (waiting ++ ([enqueued.length] ++ written)).Perm
        (waiting ++ (written ++ [enqueued.length])) :=
      List.perm_append_comm.append_left waiting
    rw [← List.append_assoc waiting written] at hswap
    exact hswap.trans (h.once.append_right [enqueued.length])
  increasing := by
    rw [List.pairwise_append]
    refine ⟨h.increasing, List.pairwise_singleton _ _, ?_⟩
    intro i hi j hj
    rw [List.mem_singleton.mp hj]
    exact h.lt_length (Or.inl hi)
  waits := by
    have hold := map_getElem?_append r fun i hi => h.lt_length (Or.inl hi)
    rw [List.map_append, List.map_append, hold, h.waits]
    simp
  wrote := by
    rw [map_getElem?_append r fun i hi => h.lt_length (Or.inr hi)]
    exact h.wrote
  inOrder := h.inOrder.append (List.Sublist.refl [r])

/-- **A committed batch is written,** and no longer waits. -/
theorem deliver (h : Places enqueued pending rows waiting written) (marks : List Bool) :
    Places enqueued (Queue.unlink marks pending) (rows ++ Queue.picked marks pending)
      (Queue.unlink marks waiting) (written ++ Queue.picked marks waiting) where
  once := by
    -- what is picked moves from the first list to the second
    have hsplit := Queue.unlink_append_picked marks waiting
    have hmove : (Queue.unlink marks waiting ++ (written ++ Queue.picked marks waiting)).Perm
        (Queue.unlink marks waiting ++ (Queue.picked marks waiting ++ written)) :=
      List.perm_append_comm.append_left _
    rw [← List.append_assoc _ (Queue.picked marks waiting)] at hmove
    exact hmove.trans ((hsplit.append_right written).trans h.once)
  increasing := h.increasing.sublist (Queue.unlink_sublist marks waiting)
  waits := by rw [← Queue.unlink_map, h.waits, Queue.unlink_map]
  wrote := by
    rw [List.map_append, List.map_append, h.wrote, ← Queue.picked_map, h.waits, Queue.picked_map]
  inOrder := (Queue.unlink_sublist marks pending).trans h.inOrder

end Places

/-! ## The invariant -/

namespace Delivery

/-- What waits once the drain under way has taken out what was stored. -/
def remaining (d : Delivery) : List Reading :=
  match d.stage with
  | .settling t => Queue.unlink t.stored d.queue.pending
  | _ => d.queue.pending

/-- How many readings have been stored once the drain under way has counted its own. -/
def total (d : Delivery) : Nat :=
  match d.stage with
  | .settling t => d.queue.delivered + t.report.persisted
  | _ => d.queue.delivered

/-- Whether the drain under way fits the queue, which grows at its end only: what was copied stands
in front, and every mark is for a reading. -/
def Fits (d : Delivery) : Prop :=
  match d.stage with
  | .idle => True
  | .offering batch _ => batch <+: d.queue.pending
  | .settling t => t.stored.length ≤ d.queue.pending.length

/-- **What holds at every moment.** -/
structure Sound (d : Delivery) : Prop where
  fits : d.Fits
  places : ∃ waiting written, Places d.enqueued d.remaining d.rows waiting written
  total : d.total = d.rows.length

theorem sound_new (settings : QueueSettings) : (new settings).Sound :=
  ⟨trivial, ⟨[], [], Places.nil⟩, rfl⟩

variable {d : Delivery}

/-- What is done to the connection does not concern the readings. -/
theorem Sound.reconnect (h : d.Sound) {q : Queue} (hsame : d.queue.SameReadings q) :
    { d with queue := q }.Sound := by
  obtain ⟨hpending, hdelivered⟩ := hsame
  obtain ⟨hfits, hplaces, htotal⟩ := h
  refine ⟨?_, ?_, ?_⟩
  · simpa only [Fits, hpending] using hfits
  · simpa only [remaining, hpending] using hplaces
  · simpa only [Delivery.total, hdelivered] using htotal

/-- An appended reading waits behind all marks. -/
theorem remaining_enqueue (hfits : d.Fits) (r : Reading) :
    (d.step (.enqueue r)).remaining = d.remaining ++ [r] := by
  simp only [Fits] at hfits
  rcases hstage : d.stage with _ | ⟨batch, cycling⟩ | t
  · simp only [remaining, step, hstage, Queue.enqueue]
  · simp only [remaining, step, hstage, Queue.enqueue]
  · rw [hstage] at hfits
    simp only [remaining, step, hstage, Queue.enqueue]
    exact Queue.unlink_append hfits [r]

/-- An appended reading keeps a queue at work sound, at every stage of a drain. -/
theorem Sound.enqueue (h : d.Sound) (r : Reading) : (d.step (.enqueue r)).Sound := by
  obtain ⟨waiting, written, hplaces⟩ := h.places
  have hfits := h.fits
  refine ⟨?_, ⟨waiting ++ [d.enqueued.length], written, ?_⟩, h.total⟩
  · simp only [Fits, step, Queue.enqueue] at hfits ⊢
    rcases hstage : d.stage with _ | ⟨batch, cycling⟩ | t
    · trivial
    · rw [hstage] at hfits
      exact hfits.trans (List.prefix_append _ _)
    · rw [hstage] at hfits
      simp only [List.length_append, List.length_singleton]
      exact Nat.le_succ_of_le hfits
  · rw [remaining_enqueue hfits]
    exact hplaces.enqueue r

theorem Sound.copy (h : d.Sound) (hidle : d.stage = .idle) (cycling : Bool) :
    { d with stage := .offering d.queue.pending cycling }.Sound := by
  obtain ⟨-, hplaces, htotal⟩ := h
  simp only [remaining, Delivery.total, hidle] at hplaces htotal
  exact ⟨List.prefix_refl _, hplaces, htotal⟩

/-- A cycle that begins copies what waits if it is connected, and otherwise nothing. -/
theorem Sound.beginCycle (h : d.Sound) (hidle : d.stage = .idle)
    (attempt : Except Fault Connection) (wall : Int) : (d.beginCycle attempt wall).Sound := by
  have hconnected := h.reconnect (d.queue.sameReadings_tryConnect attempt wall)
  unfold Delivery.beginCycle
  rcases hconnect : d.queue.tryConnect attempt wall with ⟨e | _, q, notices⟩
  · rw [hconnect] at hconnected
    exact hconnected
  · rw [hconnect] at hconnected
    exact hconnected.copy hidle true

theorem Sound.abandon (h : d.Sound) {batch : List Reading} {cycling : Bool}
    (hstage : d.stage = .offering batch cycling) : { d with stage := .idle }.Sound := by
  obtain ⟨-, hplaces, htotal⟩ := h
  simp only [remaining, Delivery.total, hstage] at hplaces htotal
  exact ⟨trivial, hplaces, htotal⟩

/-- A batch that is committed is written, and is to be taken out. -/
theorem Sound.commit (h : d.Sound) {batch : List Reading} {cycling : Bool}
    (hstage : d.stage = .offering batch cycling) {t : Queue.Tally}
    (hlen : t.stored.length ≤ batch.length) :
    { d with stage := .settling t, rows := d.rows ++ Queue.picked t.stored batch }.Sound := by
  obtain ⟨hfits, ⟨waiting, written, hplaces⟩, htotal⟩ := h
  simp only [Fits, remaining, Delivery.total, hstage] at hfits hplaces htotal
  obtain ⟨more, hmore⟩ := hfits
  -- the batch still stands in front, so its marks pick the same readings from the queue
  have hpicked : Queue.picked t.stored d.queue.pending = Queue.picked t.stored batch := by
    rw [← hmore, Queue.picked_append hlen]
  have hpersisted : t.report.persisted = (Queue.picked t.stored batch).length :=
    (Queue.length_picked hlen).symm
  have hdelivered := hplaces.deliver t.stored
  rw [hpicked] at hdelivered
  refine ⟨?_, ⟨_, _, hdelivered⟩, ?_⟩
  · simp only [Fits]
    rw [← hmore, List.length_append]
    omega
  · simp only [Delivery.total, List.length_append]
    rw [htotal, hpersisted]

/-- **Commit and failure.** A batch that was committed is written and is to be taken out; of one
that failed nothing is written, and nothing is taken out. -/
theorem Sound.answered (h : d.Sound) {batch : List Reading} {cycling : Bool}
    (hstage : d.stage = .offering batch cycling) (v : Verdicts) :
    (d.answered batch cycling v).Sound := by
  obtain ⟨hsame, hoffer⟩ := d.queue.offer_spec batch v
  have hoffered := h.reconnect hsame
  unfold Delivery.answered
  rcases hresult : d.queue.offer batch v with ⟨e | t, q, notices⟩
  · rw [hresult] at hoffer hoffered
    have hnone : d.queue.writtenBy batch v = [] := hoffer
    have hidle := hoffered.abandon hstage
    rw [hnone, List.append_nil]
    rcases cycling
    · exact hidle
    · exact hidle.reconnect q.sameReadings_close
  · rw [hresult] at hoffer hoffered
    obtain ⟨hlen, hpicked⟩ := hoffer
    rw [← hpicked]
    exact hoffered.commit hstage hlen

/-- What was committed is taken out. Nothing moves, for the places speak of the queue as it is
now. -/
theorem Sound.settle (h : d.Sound) {t : Queue.Tally} (hstage : d.stage = .settling t) :
    { d with queue := d.queue.settle t, stage := .idle }.Sound := by
  obtain ⟨-, hplaces, htotal⟩ := h
  simp only [remaining, Delivery.total, hstage] at hplaces htotal
  exact ⟨trivial, hplaces, htotal⟩

/-- **One event more.** -/
theorem Sound.step (h : d.Sound) (e : Event) : (d.step e).Sound := by
  cases e with
  | enqueue r => exact h.enqueue r
  | tryConnect attempt wall => exact h.reconnect (d.queue.sameReadings_tryConnect attempt wall)
  | close => exact h.reconnect d.queue.sameReadings_close
  | drain =>
    simp only [Delivery.step]
    split
    · exact h.copy ‹_› false
    · exact h
  | cycle attempt wall =>
    simp only [Delivery.step]
    split
    · exact h.beginCycle ‹_› attempt wall
    · exact h
  | answer v =>
    simp only [Delivery.step]
    split
    · exact h.answered ‹_› v
    · exact h
  | settle =>
    simp only [Delivery.step]
    split
    · exact h.settle ‹_›
    · exact h

/-- **Any number of events.** -/
theorem Sound.run (h : d.Sound) (events : List Event) : (d.run events).Sound := by
  induction events generalizing d with
  | nil => exact h
  | cons e es ih => exact ih (h.step e)

/-- **No reading is lost or delivered twice.** After any events, whatever the database answered,
when no drain is under way: every reading that was appended either waits, once, or was written by
one insert that was committed; those that wait are in the order of appending; and as many have left
as were counted. -/
theorem each_reading_once (settings : QueueSettings) (events : List Event)
    (hidle : ((new settings).run events).stage = .idle) :
    let d := (new settings).run events
    (∃ waiting written, Places d.enqueued d.queue.pending d.rows waiting written)
      ∧ d.queue.delivered + d.queue.pending.length = d.enqueued.length := by
  have hsound := (sound_new settings).run events
  intro d
  obtain ⟨-, ⟨waiting, written, hplaces⟩, htotal⟩ := hsound
  simp only [remaining, Delivery.total, hidle] at hplaces htotal
  refine ⟨⟨waiting, written, hplaces⟩, ?_⟩
  rw [htotal]
  exact hplaces.length_eq

/-- A transaction is rolled back; in the next a reading is refused alone, and meanwhile one comes in
that equals the first. -/
theorem each_reading_once_after_rollback :
    let r : Reading := ⟨100, ⟨1⟩, ⟨0⟩, true⟩
    let r' : Reading := ⟨101, ⟨2⟩, ⟨0⟩, true⟩
    let d := (new ⟨"readings.db", 3, 10, 10⟩).run
      [.enqueue r, .enqueue r', .cycle (.ok {}) 0,
        .answer { rows := [.done, .rolledBack .noTable] },
        .cycle (.ok {}) 1, .enqueue r, .answer { rows := [.done, .refused .noTable] }, .settle]
    d.stage = .idle ∧ d.rows = [r] ∧ d.queue.pending = [r', r]
      ∧ (∃ waiting written, Places d.enqueued d.queue.pending d.rows waiting written)
      ∧ d.queue.delivered + d.queue.pending.length = d.enqueued.length :=
  ⟨rfl, rfl, rfl, each_reading_once _ _ rfl⟩

end Delivery

end SensorGateway.Storage
