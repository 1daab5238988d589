import SensorGateway.Gateway.Storing
import SensorGateway.Proofs.Storage.Connection
import SensorGateway.Proofs.Storage.Delivery

/-!
The storage worker at work.

`Worker` is a gateway with the place at which its storage worker stands. The worker moves from one
lock to the next, and readings and the stop signal may come between any two moves; nothing else
touches the database. A pass that nothing comes between is the pass of the gateway
(`pass_undisturbed`), and so is the end (`end_undisturbed`).

For its readings the worker is a queue at work: each of its moves is one that a `Delivery` can make
(`delivery_step`), so what holds of the readings there holds here.
-/

set_option autoImplicit false

namespace SensorGateway

open Storage

/-! ## Moves -/

/-- Where the storage worker stands. `last` tells the drain after the stop from that of a cycle. -/
inductive Place where
  /-- About to look whether the gateway stops. -/
  | looking
  /-- At the start of a cycle. -/
  | connecting
  /-- About to copy what waits. -/
  | copying (last : Bool)
  | offering (batch : List Reading) (last : Bool)
  /-- The batch was committed, and its readings are still in the queue. -/
  | settling (tally : Queue.Tally) (last : Bool)
  /-- Between two cycles, with what the first has come to and the time to wait. -/
  | waiting (outcome : Except StorageError CycleOutcome) (delay : Nat)
  /-- After the last drain. -/
  | closing (result : Except StorageError DrainReport)
  | ended (result : Except StorageError Unit)

/-- What the worker does to the database, with the answer. -/
inductive Deed where
  /-- It tries to open it. -/
  | attempt (answer : Except Fault Connection)
  | drain (result : Except StorageError DrainReport)

/-- **A gateway and its storage worker.** -/
structure Worker where
  gateway : Gateway
  place : Place := .looking
  /-- What the worker has done, the newest first. -/
  history : List Deed := []
  /-- All readings that were appended, the first one first. -/
  enqueued : List Reading := []
  /-- The readings whose inserts were committed, in that order. -/
  rows : List Reading := []

namespace Worker

def start (g : Gateway) (settings : QueueSettings) : Worker :=
  { gateway := { g with queue := { settings } } }

def setQueue (w : Worker) (q : Queue) : Worker := { w with gateway := { w.gateway with queue := q } }

def write (w : Worker) (written : List Reading) : Worker := { w with rows := w.rows ++ written }

def note (w : Worker) (d : Deed) : Worker := { w with history := d :: w.history }

/-- A cycle is over, and the worker waits or gives up. -/
def conclude (w : Worker) (outcome : Except StorageError CycleOutcome) : Worker :=
  match w.gateway.afterCycle outcome with
  | (.ok delay, g, _) => { w with gateway := g, place := .waiting outcome delay }
  | (.error e, g, _) => { w with gateway := g, place := .ended (.error e) }

/-- A new cycle, or the end if the gateway stops; then only an open database is drained once more. -/
def look (w : Worker) : Worker :=
  if w.gateway.stopped then
    match w.gateway.queue.status with
    | .connected => { w with place := .copying true }
    | .disconnected => { w with place := .closing (.ok {}) }
  else { w with place := .connecting }

/-- A cycle opens the database if need be. -/
def connect (w : Worker) (attempt : Except Fault Connection) (wall : Int) : Worker :=
  match w.gateway.queue.status with
  | .connected => { w with place := .copying false }
  | .disconnected =>
    match w.gateway.queue.tryConnect attempt wall with
    | (.ok (), q, _) => { (w.note (.attempt attempt)).setQueue q with place := .copying false }
    | (.error e, q, _) =>
      ((w.note (.attempt attempt)).setQueue q).conclude
        (if e.isFatal then .error e else .ok (.backoff q.retryCount))

/-- A drain is over. In a cycle a failure closes the database. -/
def drained (w : Worker) (last : Bool) (result : Except StorageError DrainReport) : Worker :=
  let w := w.note (.drain result)
  if last then { w with place := .closing result }
  else
    match result with
    | .ok report => w.conclude (.ok (.drained report))
    | .error e => (w.setQueue w.gateway.queue.close.1).conclude (.error e)

def offer (w : Worker) (batch : List Reading) (last : Bool) (v : Verdicts) : Worker :=
  let written := w.write (w.gateway.queue.writtenBy batch v)
  match w.gateway.queue.offer batch v with
  | (.ok t, q, _) => { written.setQueue q with place := .settling t last }
  | (.error e, q, _) => (written.setQueue q).drained last (.error e)

def settle (w : Worker) (t : Queue.Tally) (last : Bool) : Worker :=
  (w.setQueue (w.gateway.queue.settle t)).drained last (.ok t.report)

/-- **The next move of the worker,** with what the database answers if it is asked. -/
def work (w : Worker) (answers : Queue.Answers) (now : Moment) : Worker :=
  match w.place with
  | .looking => w.look
  | .connecting => w.connect answers.attempt now.wall
  | .copying last => { w with place := .offering w.gateway.queue.pending last }
  | .offering batch last => w.offer batch last answers.verdicts
  | .settling t last => w.settle t last
  | .waiting _ _ => { w with place := .looking }
  | .closing result =>
    { w with gateway := (w.gateway.closeStore result).1, place := .ended (.ok ()) }
  | .ended _ => w

inductive Event where
  | enqueue (r : Reading)
  | stop
  | work (answers : Queue.Answers) (now : Moment)

def step (w : Worker) : Event → Worker
  | .enqueue r =>
    { w.setQueue (w.gateway.queue.enqueue r) with enqueued := w.enqueued ++ [r] }
  | .stop => { w with gateway := w.gateway.stop }
  | .work answers now => w.work answers now

/-- **The worker after a list of events,** the first one first. -/
def run (w : Worker) (events : List Event) : Worker := events.foldl step w

/-! ## What a move does -/

variable {w : Worker}

/-- **What follows from a cycle.** A fatal error ends the worker, and after anything else it waits;
of the gateway only the metrics change. -/
theorem conclude_cases (w : Worker) (outcome : Except StorageError CycleOutcome) :
    (∃ e, outcome = .error e ∧ e.isFatal = true
        ∧ w.conclude outcome = { w with place := .ended (.error e) })
      ∨ ((∀ e, outcome = .error e → e.isFatal = false) ∧ ∃ f delay, w.conclude outcome
        = { w with gateway := w.gateway.measure f, place := .waiting outcome delay }) := by
  rcases outcome with e | report | attempt
  · by_cases hfatal : e.isFatal = true
    · refine Or.inl ⟨e, rfl, hfatal, ?_⟩
      simp only [conclude, Gateway.afterCycle, if_pos hfatal]
    · refine Or.inr ⟨?_, ?_⟩
      · rintro e' ⟨⟩
        exact Bool.eq_false_iff.mpr hfatal
      · simp only [conclude, Gateway.afterCycle, if_neg hfatal]
        exact ⟨_, _, rfl⟩
  · refine Or.inr ⟨by rintro e ⟨⟩, fun m => (m.drained report.persisted report.failed).showPending
      w.gateway.queue.pending.length, w.gateway.queue.settings.drainInterval, ?_⟩
    simp only [conclude, Gateway.afterCycle, Gateway.measure, Option.map_map]
    rfl
  · exact Or.inr ⟨by rintro e ⟨⟩, _, _, rfl⟩

theorem history_conclude (w : Worker) (outcome : Except StorageError CycleOutcome) :
    (w.conclude outcome).history = w.history := by
  rcases w.conclude_cases outcome with ⟨e, -, -, h⟩ | ⟨-, f, delay, h⟩
  · rw [h]
  · rw [h]

theorem connect_of_connected (h : w.gateway.queue.status = .connected)
    (attempt : Except Fault Connection) (wall : Int) :
    w.connect attempt wall = { w with place := .copying false } := by
  rw [connect, h]

/-- An attempt that succeeds is followed by the drain of the cycle. -/
theorem connect_of_ok (h : w.gateway.queue.status = .disconnected) (c : Connection) (wall : Int) :
    w.connect (.ok c) wall
      = { (w.note (.attempt (.ok c))).setQueue (w.gateway.queue.opened c) with
          place := .copying false } := by
  rw [connect, h]
  simp only [Queue.tryConnect_of_ok h]

/-- A failed attempt ends the cycle; at the limit it ends the worker. -/
theorem connect_of_error (h : w.gateway.queue.status = .disconnected) (fault : Fault) (wall : Int) :
    w.connect (.error fault) wall
      = ((w.note (.attempt (.error fault))).setQueue (w.gateway.queue.failed wall)).conclude
          (if w.gateway.queue.settings.retryLimit ≤ w.gateway.queue.retryCount + 1
            then .error (.retryLimitReached (w.gateway.queue.retryCount + 1))
            else .ok (.backoff (w.gateway.queue.retryCount + 1))) := by
  obtain ⟨notices, htry⟩ := Queue.tryConnect_of_error h fault wall
  rw [connect, h]
  simp only [htry]
  by_cases hlimit : w.gateway.queue.settings.retryLimit ≤ w.gateway.queue.retryCount + 1
  · rw [if_pos hlimit, if_pos hlimit]
    rfl
  · rw [if_neg hlimit, if_neg hlimit]
    rfl

/-- A batch that was committed has yet to be taken out of the queue. -/
theorem offer_of_ok {batch : List Reading} {v : Verdicts} {t : Queue.Tally} (last : Bool)
    (h : (w.gateway.queue.offer batch v).1 = .ok t) :
    w.offer batch last v
      = { (w.write (w.gateway.queue.writtenBy batch v)).setQueue
            (w.gateway.queue.offer batch v).2.1 with place := .settling t last } := by
  rcases hoffer : w.gateway.queue.offer batch v with ⟨result, q, notices⟩
  rw [hoffer] at h
  obtain rfl : result = .ok t := h
  simp only [offer, hoffer]

/-- A batch that failed ends the drain. -/
theorem offer_of_error {batch : List Reading} {v : Verdicts} {e : StorageError} (last : Bool)
    (h : (w.gateway.queue.offer batch v).1 = .error e) :
    w.offer batch last v
      = ((w.write (w.gateway.queue.writtenBy batch v)).setQueue
          (w.gateway.queue.offer batch v).2.1).drained last (.error e) := by
  rcases hoffer : w.gateway.queue.offer batch v with ⟨result, q, notices⟩
  rw [hoffer] at h
  obtain rfl : result = .error e := h
  simp only [offer, hoffer]

/-! ## Undisturbed -/

/-- The worker after moves that nothing comes between. -/
def alone (w : Worker) (n : Nat) (answers : Queue.Answers) (now : Moment) : Worker :=
  w.run (List.replicate n (.work answers now))

/-- The first of several moves, -/
theorem alone_succ (n : Nat) (answers : Queue.Answers) (now : Moment) :
    w.alone (n + 1) answers now = (w.work answers now).alone n answers now := rfl

/-- and the last of them. -/
theorem alone_succ_last (n : Nat) (answers : Queue.Answers) (now : Moment) :
    w.alone (n + 1) answers now = (w.alone n answers now).work answers now := by
  rw [alone, run, List.replicate_succ', List.foldl_append]
  rfl

/-- The worker goes on as the gateway decides behind a cycle. -/
theorem conclude_afterCycle (w : Worker) (outcome : Except StorageError CycleOutcome) :
    (w.conclude outcome).gateway = (w.gateway.afterCycle outcome).2.1
      ∧ (w.conclude outcome).place = match (w.gateway.afterCycle outcome).1 with
        | .ok delay => .waiting outcome delay
        | .error e => .ended (.error e) := by
  unfold conclude
  rcases w.gateway.afterCycle outcome with ⟨e | delay, g, notices⟩
  · exact ⟨rfl, rfl⟩
  · exact ⟨rfl, rfl⟩

/-- Offering a batch, and settling it if it was committed, is the rest of a drain. -/
theorem offering_alone {last : Bool} (h : w.place = .offering w.gateway.queue.pending last)
    (answers : Queue.Answers) (now : Moment) :
    ∃ n w', w.alone n answers now = drained w' last (w.gateway.queue.drain answers.verdicts).1
      ∧ w'.gateway = { w.gateway with queue := (w.gateway.queue.drain answers.verdicts).2.1 } := by
  have hone : w.work answers now = w.offer w.gateway.queue.pending last answers.verdicts := by
    simp only [work, h]
  -- a batch that fails is over with one move, one that is committed with two
  rcases hoffer : w.gateway.queue.offer w.gateway.queue.pending answers.verdicts
    with ⟨e | t, q, notices⟩
  · simp only [Queue.drain, hoffer]
    refine ⟨1, (w.write (w.gateway.queue.writtenBy w.gateway.queue.pending
      answers.verdicts)).setQueue q, ?_, rfl⟩
    rw [alone_succ, hone, offer_of_error last (congrArg Prod.fst hoffer), hoffer]
    rfl
  · simp only [Queue.drain, hoffer]
    refine ⟨2, (w.write (w.gateway.queue.writtenBy w.gateway.queue.pending
      answers.verdicts)).setQueue (q.settle t), ?_, rfl⟩
    rw [alone_succ, hone, offer_of_ok last (congrArg Prod.fst hoffer), hoffer]
    rfl

/-- A drain that nothing comes between is the drain of the queue. -/
theorem drain_alone {last : Bool} (h : w.place = .copying last) (answers : Queue.Answers)
    (now : Moment) :
    ∃ n w', w.alone n answers now = drained w' last (w.gateway.queue.drain answers.verdicts).1
      ∧ w'.gateway = { w.gateway with queue := (w.gateway.queue.drain answers.verdicts).2.1 } := by
  have hcopy : w.work answers now = { w with place := .offering w.gateway.queue.pending last } := by
    simp only [work, h]
  obtain ⟨n, w', hrun, hgateway⟩ := offering_alone
    (w := { w with place := .offering w.gateway.queue.pending last }) rfl answers now
  refine ⟨n + 1, w', ?_, hgateway⟩
  rw [alone_succ, hcopy, hrun]

/-- In a cycle, what follows is the second half of the cycle of the queue. -/
theorem cycle_alone (h : w.place = .copying false) (answers : Queue.Answers) (now : Moment) :
    ∃ n w', w.alone n answers now
        = conclude w' (Queue.afterDrain (w.gateway.queue.drain answers.verdicts)).1
      ∧ w'.gateway = { w.gateway with
          queue := (Queue.afterDrain (w.gateway.queue.drain answers.verdicts)).2.1 } := by
  obtain ⟨n, w', hrun, hgateway⟩ := drain_alone h answers now
  rcases hdrain : w.gateway.queue.drain answers.verdicts with ⟨e | report, q, notices⟩
  · rw [hdrain] at hrun hgateway
    refine ⟨n, (w'.note (.drain (.error e))).setQueue q.close.1, ?_, ?_⟩
    · rw [hrun]
      simp only [drained, note, hgateway]
      rfl
    · simp only [setQueue, note, hgateway]
      rfl
  · rw [hdrain] at hrun hgateway
    exact ⟨n, w'.note (.drain (.ok report)), hrun, hgateway⟩

/-- **A pass that nothing comes between is the pass of the gateway.** -/
theorem pass_undisturbed (h : w.place = .connecting) (answers : Queue.Answers) (now : Moment) :
    ∃ n, (w.alone n answers now).gateway = (w.gateway.store answers now).2.1
      ∧ (w.alone n answers now).place = match (w.gateway.store answers now).1 with
        | .ok delay => .waiting (w.gateway.queue.cycle answers now.wall).1 delay
        | .error e => .ended (.error e) := by
  have hconnect : w.work answers now = w.connect answers.attempt now.wall := by
    simp only [work, h]
  obtain ⟨n, w', hrun, hgateway⟩ : ∃ n w',
      w.alone n answers now = conclude w' (w.gateway.queue.cycle answers now.wall).1
        ∧ w'.gateway = { w.gateway with
            queue := (w.gateway.queue.cycle answers now.wall).2.1 } := by
    rcases hstatus : w.gateway.queue.status
    · -- the database is open, and the cycle is a drain
      rw [connect_of_connected hstatus] at hconnect
      obtain ⟨n, w', hrun, hgateway⟩ := cycle_alone (w := { w with place := .copying false }) rfl
        answers now
      refine ⟨n + 1, w', ?_, ?_⟩
      · rw [alone_succ, hconnect, hrun, Queue.cycle, hstatus]
      · rw [hgateway, Queue.cycle, hstatus]
    · rcases hattempt : answers.attempt with fault | c
      · -- the attempt fails, and the cycle is over after one move
        obtain ⟨notices, htry⟩ := Queue.tryConnect_of_error hstatus fault now.wall
        rw [hattempt, connect_of_error hstatus] at hconnect
        refine ⟨1, (w.note (.attempt (.error fault))).setQueue (w.gateway.queue.failed now.wall),
          ?_, ?_⟩
        · rw [alone_succ, hconnect, Queue.cycle, hstatus]
          simp only [hattempt, htry]
          by_cases hlimit : w.gateway.queue.settings.retryLimit ≤ w.gateway.queue.retryCount + 1
          · rw [if_pos hlimit, if_pos hlimit]
            rfl
          · rw [if_neg hlimit, if_neg hlimit]
            rfl
        · rw [Queue.cycle, hstatus]
          simp only [hattempt, htry]
          split
          · rfl
          · rfl
      · rw [hattempt, connect_of_ok hstatus] at hconnect
        obtain ⟨n, w', hrun, hgateway⟩ := cycle_alone
          (w := { (w.note (.attempt (.ok c))).setQueue (w.gateway.queue.opened c) with
            place := .copying false }) rfl answers now
        refine ⟨n + 1, w', ?_, ?_⟩
        · rw [alone_succ, hconnect, hrun, Queue.cycle, hstatus]
          simp only [hattempt, Queue.tryConnect_of_ok hstatus]
          rfl
        · rw [hgateway, Queue.cycle, hstatus]
          simp only [hattempt, Queue.tryConnect_of_ok hstatus]
          rfl
  refine ⟨n, ?_, ?_⟩
  · rw [hrun, (w'.conclude_afterCycle _).1, hgateway]
    rfl
  · rw [hrun, (w'.conclude_afterCycle _).2, hgateway]
    rfl

/-- The end that nothing comes between is the end of the gateway. -/
theorem end_undisturbed (h : w.place = .looking) (hstop : w.gateway.stopped = true)
    (answers : Queue.Answers) (now : Moment) :
    ∃ n, (w.alone n answers now).gateway = (w.gateway.flush answers.verdicts).1
      ∧ (w.alone n answers now).place = .ended (.ok ()) := by
  have hlook : w.work answers now = w.look := by
    simp only [work, h]
  rw [look, if_pos hstop] at hlook
  -- an open database is drained once more, and a closed one has nothing to end with
  rcases hstatus : w.gateway.queue.status
  · simp only [hstatus] at hlook
    obtain ⟨n, w', hrun, hgateway⟩ := drain_alone (w := { w with place := .copying true }) rfl
      answers now
    have hdone : w.alone (n + 1) answers now
        = drained w' true (w.gateway.queue.drain answers.verdicts).1 := by
      rw [alone_succ, hlook, hrun]
    refine ⟨n + 1 + 1, ?_, ?_⟩
    · rw [alone_succ_last, hdone, Gateway.flush, hstatus]
      show (w'.gateway.closeStore (w.gateway.queue.drain answers.verdicts).1).1 = _
      rw [hgateway]
    · rw [alone_succ_last, hdone]
      rfl
  · simp only [hstatus] at hlook
    refine ⟨2, ?_, ?_⟩
    · rw [alone_succ, hlook, Gateway.flush, hstatus]
      rfl
    · rw [alone_succ, hlook]
      rfl

/-! ## Readings -/

def stage (w : Worker) : Draining :=
  match w.place with
  | .offering batch _ => .offering batch false
  | .settling t _ => .settling t
  | _ => .idle

/-- The queue of the worker, at work. -/
def delivery (w : Worker) : Delivery := ⟨w.gateway.queue, w.stage, w.enqueued, w.rows⟩

theorem delivery_conclude (w : Worker) (outcome : Except StorageError CycleOutcome) :
    (w.conclude outcome).delivery = ⟨w.gateway.queue, .idle, w.enqueued, w.rows⟩ := by
  rcases w.conclude_cases outcome with ⟨e, -, -, h⟩ | ⟨-, f, delay, h⟩
  · rw [h]
    rfl
  · rw [h]
    rfl

/-- Opening the database is an attempt of the queue, or nothing if it is open. -/
theorem delivery_connect (hplace : w.place = .connecting) (attempt : Except Fault Connection)
    (wall : Int) :
    (w.connect attempt wall).delivery = w.delivery ∨
      (w.connect attempt wall).delivery = w.delivery.run [.tryConnect attempt wall] := by
  have hidle : w.delivery = ⟨w.gateway.queue, .idle, w.enqueued, w.rows⟩ := by
    rw [delivery, stage, hplace]
  rw [hidle]
  rcases hstatus : w.gateway.queue.status
  · left
    rw [connect_of_connected hstatus]
    rfl
  · right
    rcases attempt with fault | c
    · obtain ⟨notices, htry⟩ := Queue.tryConnect_of_error hstatus fault wall
      rw [connect_of_error hstatus, delivery_conclude]
      show _ = (⟨(w.gateway.queue.tryConnect (.error fault) wall).2.1, .idle, _, _⟩ : Delivery)
      rw [htry]
      rfl
    · rw [connect_of_ok hstatus]
      show _ = (⟨(w.gateway.queue.tryConnect (.ok c) wall).2.1, .idle, _, _⟩ : Delivery)
      rw [Queue.tryConnect_of_ok hstatus]
      rfl

/-- Behind a drain no batch is under way, and the database may have been closed. -/
theorem delivery_drained (w : Worker) (last : Bool) (result : Except StorageError DrainReport) :
    (w.drained last result).delivery
      = ⟨w.gateway.queue, .idle, w.enqueued, w.rows⟩
    ∨ (w.drained last result).delivery
      = ⟨w.gateway.queue.close.1, .idle, w.enqueued, w.rows⟩ := by
  rcases last
  · rcases result with e | report
    · -- the worker closes the database here, which a queue at work can do, too
      right
      simp only [drained, Bool.false_eq_true, if_false, delivery_conclude]
      rfl
    · left
      simp only [drained, Bool.false_eq_true, if_false, delivery_conclude]
      rfl
  · left
    rfl

/-- The database answers a batch, and may be closed behind it. -/
theorem delivery_offer {batch : List Reading} {last : Bool} (hplace : w.place = .offering batch last)
    (v : Verdicts) :
    (w.offer batch last v).delivery = w.delivery.run [.answer v] ∨
      (w.offer batch last v).delivery = w.delivery.run [.answer v, .close] := by
  have hoffering : w.delivery = ⟨w.gateway.queue, .offering batch false, w.enqueued, w.rows⟩ := by
    rw [delivery, stage, hplace]
  rw [hoffering]
  simp only [Delivery.run, List.foldl_cons, List.foldl_nil, Delivery.step, Delivery.answered]
  rcases hoffer : w.gateway.queue.offer batch v with ⟨e | t, q, notices⟩
  · rw [offer_of_error last (congrArg Prod.fst hoffer), hoffer]
    exact delivery_drained _ last (.error e)
  · left
    rw [offer_of_ok last (congrArg Prod.fst hoffer), hoffer]
    rfl

/-- Settling is the same step in both. -/
theorem delivery_settle {t : Queue.Tally} {last : Bool} (hplace : w.place = .settling t last) :
    (w.settle t last).delivery = w.delivery.run [.settle] := by
  have hsettling : w.delivery = ⟨w.gateway.queue, .settling t, w.enqueued, w.rows⟩ := by
    rw [delivery, stage, hplace]
  rw [hsettling]
  rcases last
  · simp only [settle, drained, Bool.false_eq_true, if_false, delivery_conclude]
    rfl
  · rfl

/-- **Every move of the worker is a few steps of its queue,** often none. -/
theorem delivery_work (w : Worker) (answers : Queue.Answers) (now : Moment) :
    ∃ events, (w.work answers now).delivery = w.delivery.run events := by
  unfold work
  split
  next h =>
    have hidle : w.delivery = ⟨w.gateway.queue, .idle, w.enqueued, w.rows⟩ := by
      rw [delivery, stage, h]
    refine ⟨[], ?_⟩
    rw [hidle, look]
    split
    · split
      · rfl
      · rfl
    · rfl
  next h =>
    rcases delivery_connect h answers.attempt now.wall with hsame | htried
    · exact ⟨[], hsame⟩
    · exact ⟨_, htried⟩
  next last h =>
    refine ⟨[.drain], ?_⟩
    simp only [delivery, stage, h]
    rfl
  next batch last h =>
    rcases delivery_offer h answers.verdicts with hanswered | hclosed
    · exact ⟨_, hanswered⟩
    · exact ⟨_, hclosed⟩
  next t last h => exact ⟨_, delivery_settle h⟩
  next h =>
    refine ⟨[], ?_⟩
    simp only [delivery, stage, h]
    rfl
  next result h =>
    refine ⟨[.close], ?_⟩
    simp only [delivery, stage, h]
    rfl
  next => exact ⟨[], rfl⟩

/-- **A worker is a queue at work:** whatever happens to it is something that happens there. -/
theorem delivery_step (w : Worker) (event : Event) :
    ∃ events, (w.step event).delivery = w.delivery.run events := by
  rcases event with r | _ | ⟨answers, now⟩
  · exact ⟨[.enqueue r], rfl⟩
  · exact ⟨[], rfl⟩
  · exact w.delivery_work answers now

/-- What holds of the readings of a queue at work holds of those of a worker. -/
theorem sound_run (g : Gateway) (settings : QueueSettings) (events : List Event) :
    ((start g settings).run events).delivery.Sound := by
  -- from any worker, so that the induction may go on behind a step
  have hrun : ∀ w : Worker, w.delivery.Sound → (w.run events).delivery.Sound := by
    induction events with
    | nil => exact fun w h => h
    | cons e es ih =>
      intro w h
      obtain ⟨happened, hstep⟩ := w.delivery_step e
      apply ih
      rw [hstep]
      exact h.run happened
  exact hrun _ (Delivery.sound_new settings)

end Worker

end SensorGateway
