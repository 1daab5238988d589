import Mathlib.Data.List.Induction
import SensorGateway.Proofs.Gateway.Worker

/-!
What the metrics say about deliveries.

The queue counts what it has delivered when a drain takes it out, and the worker counts what a drain
reports when its cycle is over. In between the two differ by that drain, so they agree wherever the
worker waits.

They stop agreeing with the stop. The drain after it is not one of a cycle, and the worker closes the
database behind it without a look at the metrics. So the metric stays at what was delivered when the
worker saw the stop, and it is short of whatever the last drain stores (`persisted_until_stop`).
-/

set_option autoImplicit false

namespace SensorGateway

open Storage

namespace Worker

variable {w : Worker}

/-! ## In a cycle and behind it -/

/-- Whether the worker has seen the stop and is in its last drain or behind it. -/
def leaving : Place → Bool
  | .copying last | .offering _ last | .settling _ last => last
  | .closing _ | .ended (.ok _) => true
  | _ => false

/-- How many readings a cycle has stored, as far as its outcome says. -/
def storedBy : Except StorageError CycleOutcome → Nat
  | .ok (.drained report) => report.persisted
  | _ => 0

/-- **The metric of stored readings stands at a number.** -/
def Shows (w : Worker) (n : Nat) : Prop :=
  ∃ m, w.gateway.metrics = some m ∧ m.readingsPersisted = n

/-- The end of a cycle counts what the cycle has stored, and the worker waits or gives up. -/
theorem shows_conclude {n : Nat} (h : w.Shows n) (outcome : Except StorageError CycleOutcome) :
    (w.conclude outcome).Shows (n + storedBy outcome)
      ∧ (w.conclude outcome).gateway.queue = w.gateway.queue
      ∧ leaving (w.conclude outcome).place = false := by
  obtain ⟨m, hm, hn⟩ := h
  rcases outcome with e | report | attempt
  · by_cases hfatal : e.isFatal = true
    · have hend : w.conclude (.error e) = { w with place := .ended (.error e) } := by
        simp only [conclude, Gateway.afterCycle, if_pos hfatal]
      rw [hend]
      exact ⟨⟨m, hm, hn⟩, rfl, rfl⟩
    · simp only [conclude, Gateway.afterCycle, if_neg hfatal]
      refine ⟨⟨m.showPending w.gateway.queue.pending.length, ?_, hn⟩, rfl, rfl⟩
      rw [Gateway.measure, hm]
      rfl
  · simp only [conclude, Gateway.afterCycle]
    refine ⟨⟨(m.drained report.persisted report.failed).showPending
      w.gateway.queue.pending.length, ?_, ?_⟩, rfl, rfl⟩
    · simp only [Gateway.measure, hm]
      rfl
    · exact congrArg (· + report.persisted) hn
  · simp only [conclude, Gateway.afterCycle]
    refine ⟨⟨m.showPending w.gateway.queue.pending.length, ?_, hn⟩, rfl, rfl⟩
    rw [Gateway.measure, hm]
    rfl

/-- **The metric agrees with the queue,** and the worker is in a cycle or between two. -/
def Agreed (w : Worker) : Prop :=
  w.Shows w.gateway.queue.delivered ∧ leaving w.place = false

/-- A cycle that has stored what its outcome says, and delivered no more, ends in agreement. -/
theorem agreed_conclude {n : Nat} (h : w.Shows n) {outcome : Except StorageError CycleOutcome}
    (hdelivered : w.gateway.queue.delivered = n + storedBy outcome) :
    (w.conclude outcome).Agreed := by
  obtain ⟨hshows, hqueue, hstays⟩ := shows_conclude h outcome
  refine ⟨?_, hstays⟩
  rw [hqueue, hdelivered]
  exact hshows

/-! ## Moves -/

/-- Looking, the worker starts a cycle, or it sees the stop and goes on to its end. -/
theorem Agreed.look (h : w.Agreed) :
    w.look.Agreed ∨ (w.gateway.stopped = true ∧ w.look.gateway = w.gateway
      ∧ leaving w.look.place = true) := by
  unfold Worker.look
  by_cases hstop : w.gateway.stopped = true
  · right
    rw [if_pos hstop]
    split
    · exact ⟨hstop, rfl, rfl⟩
    · exact ⟨hstop, rfl, rfl⟩
  · left
    rw [if_neg hstop]
    exact ⟨h.1, rfl⟩

/-- Connecting moves no reading, whether it succeeds, fails once more or fails too often. -/
theorem Agreed.connect (h : w.Agreed) (attempt : Except Fault Connection) (wall : Int) :
    (w.connect attempt wall).Agreed := by
  rcases hstatus : w.gateway.queue.status
  · rw [connect_of_connected hstatus]
    exact ⟨h.1, rfl⟩
  · rcases attempt with fault | c
    · rw [connect_of_error hstatus]
      split
      · refine agreed_conclude (n := w.gateway.queue.delivered) ?_ rfl
        exact h.1
      · refine agreed_conclude (n := w.gateway.queue.delivered) ?_ rfl
        exact h.1
    · rw [connect_of_ok hstatus]
      exact ⟨h.1, rfl⟩

/-- A drain that fails ends its cycle with nothing delivered, and one that succeeds has yet to
settle. -/
theorem Agreed.offer (h : w.Agreed) (batch : List Reading) (v : Verdicts) :
    (w.offer batch false v).Agreed := by
  obtain ⟨⟨-, hdelivered⟩, -⟩ := w.gateway.queue.offer_spec batch v
  have hshows : w.Shows (w.gateway.queue.offer batch v).2.1.delivered := by
    rw [hdelivered]
    exact h.1
  rcases hresult : (w.gateway.queue.offer batch v).1 with e | t
  · -- the cycle ends here: the connection may be closed, but no reading is taken out
    rw [offer_of_error false hresult, drained, if_neg Bool.false_ne_true]
    refine agreed_conclude (n := (w.gateway.queue.offer batch v).2.1.delivered) ?_ ?_
    · exact hshows
    · exact (Queue.sameReadings_close _).2
  · rw [offer_of_ok false hresult]
    exact ⟨hshows, rfl⟩

/-- Settling delivers what the tally says, and the end of the cycle counts the same. -/
theorem Agreed.settle (h : w.Agreed) (t : Queue.Tally) : (w.settle t false).Agreed := by
  rw [Worker.settle, drained, if_neg Bool.false_ne_true]
  refine agreed_conclude (n := w.gateway.queue.delivered) ?_ rfl
  exact h.1

/-- **A move out of a cycle keeps the agreement,** but for the one with which the worker sees the
stop, which leaves the gateway as it is. -/
theorem Agreed.work (h : w.Agreed) (answers : Queue.Answers) (now : Moment) :
    (w.work answers now).Agreed
      ∨ (w.place = .looking ∧ w.gateway.stopped = true
        ∧ (w.work answers now).gateway = w.gateway ∧ leaving (w.work answers now).place = true) := by
  -- a last drain is never met here, which is what rules out the flags of the later places
  have hstays := h.2
  unfold Worker.work
  split
  next hplace =>
    rcases h.look with hcycle | hend
    · exact Or.inl hcycle
    · exact Or.inr ⟨hplace, hend⟩
  next => exact Or.inl (h.connect answers.attempt now.wall)
  next last hplace =>
    rw [hplace] at hstays
    exact Or.inl ⟨h.1, hstays⟩
  next batch last hplace =>
    rw [hplace] at hstays
    obtain rfl : last = false := hstays
    exact Or.inl (h.offer batch answers.verdicts)
  next t last hplace =>
    rw [hplace] at hstays
    obtain rfl : last = false := hstays
    exact Or.inl (h.settle t)
  next => exact Or.inl ⟨h.1, rfl⟩
  next hplace =>
    rw [hplace] at hstays
    cases hstays
  next => exact Or.inl h

/-- **Behind the stop the metrics are left alone.** -/
theorem leaving_work (h : leaving w.place = true) (answers : Queue.Answers) (now : Moment) :
    leaving (w.work answers now).place = true
      ∧ (w.work answers now).gateway.metrics = w.gateway.metrics := by
  unfold Worker.work
  split
  next hplace =>
    rw [hplace] at h
    cases h
  next hplace =>
    rw [hplace] at h
    cases h
  next last hplace =>
    rw [hplace] at h
    exact ⟨h, rfl⟩
  next batch last hplace =>
    rw [hplace] at h
    obtain rfl : last = true := h
    rcases hresult : (w.gateway.queue.offer batch answers.verdicts).1 with e | t
    · rw [offer_of_error true hresult]
      exact ⟨rfl, rfl⟩
    · rw [offer_of_ok true hresult]
      exact ⟨rfl, rfl⟩
  next t last hplace =>
    rw [hplace] at h
    obtain rfl : last = true := h
    exact ⟨rfl, rfl⟩
  next hplace =>
    rw [hplace] at h
    cases h
  next result hplace =>
    refine ⟨rfl, ?_⟩
    show (w.gateway.closeStore result).1.metrics = w.gateway.metrics
    rfl
  next => exact ⟨h, rfl⟩

/-! ## Runs -/

/-- **How the metric stands after some events.** It agrees with the queue, or the worker saw the stop
after the events in front, with the metric and the rows of then, and has stored more since. -/
def Counted (begun : Worker) (events : List Event) (w : Worker) : Prop :=
  w.Agreed ∨ ∃ front back more, events = front ++ back
    ∧ (begun.run front).place = .looking ∧ (begun.run front).gateway.stopped = true
    ∧ w.Shows (begun.run front).gateway.queue.delivered
    ∧ w.rows = (begun.run front).rows ++ more ∧ leaving w.place = true

theorem run_snoc (w : Worker) (events : List Event) (e : Event) :
    w.run (events ++ [e]) = (w.run events).step e := by
  rw [run, List.foldl_append]
  rfl

theorem rows_prefix_step (w : Worker) (e : Event) : w.rows <+: (w.step e).rows := by
  obtain ⟨happened, hstep⟩ := w.delivery_step e
  have hrows := w.delivery.rows_run happened
  rw [← hstep] at hrows
  exact hrows

/-- Only moves of the worker itself bear on the agreement. -/
theorem Agreed.step (h : w.Agreed) (e : Event) :
    (w.step e).Agreed
      ∨ (w.place = .looking ∧ w.gateway.stopped = true
        ∧ (w.step e).gateway = w.gateway ∧ leaving (w.step e).place = true) := by
  rcases e with r | _ | ⟨answers, now⟩
  · exact Or.inl h
  · exact Or.inl h
  · exact h.work answers now

/-- Behind the stop no event touches the metrics, and the worker stays on its way out. -/
theorem leaving_step (h : leaving w.place = true) (e : Event) :
    leaving (w.step e).place = true ∧ (w.step e).gateway.metrics = w.gateway.metrics := by
  rcases e with r | _ | ⟨answers, now⟩
  · exact ⟨h, rfl⟩
  · exact ⟨h, rfl⟩
  · exact leaving_work h answers now

/-- One more event: the agreement lasts, or the worker sees the stop just now, or it has seen it. -/
theorem counted_snoc {begun : Worker} {events : List Event}
    (h : Counted begun events (begun.run events)) (e : Event) :
    Counted begun (events ++ [e]) ((begun.run events).step e) := by
  obtain ⟨more, hmore⟩ := (begun.run events).rows_prefix_step e
  rcases h with hagreed | ⟨front, back, stored, rfl, hlooking, hstop, hshows, hrows, hleaving⟩
  · rcases hagreed.step e with hstill | ⟨hlooking, hstop, hsame, hleaving⟩
    · exact Or.inl hstill
    · -- this is the move with which the worker sees the stop
      refine Or.inr ⟨events, [e], more, rfl, hlooking, hstop, ?_, hmore.symm, hleaving⟩
      rw [Shows, hsame]
      exact hagreed.1
  · -- the stop was seen before: the metric stands, while rows may still be added
    obtain ⟨hstill, hmetrics⟩ := leaving_step hleaving e
    refine Or.inr ⟨front, back ++ [e], stored ++ more, List.append_assoc _ _ _, hlooking, hstop,
      ?_, ?_, hstill⟩
    · rw [Shows, hmetrics]
      exact hshows
    · rw [← hmore, hrows, List.append_assoc]

/-- **The metric is accounted for after any events.** -/
theorem counted_run (g : Gateway) (settings : QueueSettings) (events : List Event) :
    let begun := start { g with metrics := some {} } settings
    Counted begun events (begun.run events) := by
  intro begun
  induction events using List.reverseRecOn with
  | nil => exact Or.inl ⟨⟨{}, rfl, rfl⟩, rfl⟩
  | append_singleton events e ih =>
    rw [run_snoc]
    exact counted_snoc ih e

/-! ## What the metric says -/

/-- With no committed batch to be taken out, as many were delivered as there are rows. -/
theorem delivered_eq_rows {g : Gateway} {settings : QueueSettings} {events : List Event}
    (h : ((start g settings).run events).stage = .idle) :
    let w := (start g settings).run events
    w.gateway.queue.delivered = w.rows.length := by
  have htotal := (sound_run g settings events).total
  simp only [Delivery.total, delivery, h] at htotal
  exact htotal

/-- **The metric of stored readings agrees with the queue until the worker sees the stop.** With
metrics, on a new queue, whatever the database answers and whatever comes between the moves of the
worker: where it waits between two cycles, and where it has given up, the metric is the number of
delivered readings. Where it has ended without an error, it saw the stop at some moment before, and
the metric is the number of then: the readings stored since, those of the last drain, are missing
from it. -/
theorem persisted_until_stop (g : Gateway) (settings : QueueSettings) (events : List Event) :
    let begun := start { g with metrics := some {} } settings
    let w := begun.run events
    ∃ m, w.gateway.metrics = some m
      ∧ (∀ outcome delay, w.place = .waiting outcome delay →
        m.readingsPersisted = w.gateway.queue.delivered)
      ∧ (∀ e, w.place = .ended (.error e) → m.readingsPersisted = w.gateway.queue.delivered)
      ∧ (w.place = .ended (.ok ()) → ∃ front back last, events = front ++ back
        ∧ (begun.run front).place = .looking ∧ (begun.run front).gateway.stopped = true
        ∧ w.rows = (begun.run front).rows ++ last
        ∧ m.readingsPersisted = (begun.run front).gateway.queue.delivered
        ∧ m.readingsPersisted + last.length = w.gateway.queue.delivered) := by
  intro begun w
  rcases counted_run g settings events with
    ⟨⟨m, hm, hshows⟩, hstays⟩ | ⟨front, back, last, hevents, hlooking, hstop, ⟨m, hm, hshows⟩,
      hrows, hleaving⟩
  · refine ⟨m, hm, fun outcome delay hplace => hshows, fun e hplace => hshows, ?_⟩
    intro hplace
    rw [hplace] at hstays
    cases hstays
  · refine ⟨m, hm, ?_, ?_, ?_⟩
    · intro outcome delay hplace
      rw [hplace] at hleaving
      cases hleaving
    · intro e hplace
      rw [hplace] at hleaving
      cases hleaving
    · intro hplace
      -- both times nothing is under way, and then deliveries and rows are the same in number
      have hthen : (begun.run front).gateway.queue.delivered = (begun.run front).rows.length := by
        refine delivered_eq_rows ?_
        rw [stage, hlooking]
      have hnow : w.gateway.queue.delivered = w.rows.length := by
        refine delivered_eq_rows ?_
        rw [stage, hplace]
      refine ⟨front, back, last, hevents, hlooking, hstop, hrows, hshows, ?_⟩
      rw [hshows, hthen, hnow, hrows, List.length_append]

/-- A reading comes while the worker waits, and the gateway stops: the last drain stores it, and the
metric does not tell. -/
theorem last_drain_uncounted :
    let r : Reading := ⟨100, ⟨1⟩, ⟨0⟩, true⟩
    let turn : Event := .work { attempt := .ok {}, verdicts := { rows := [.done] } } ⟨0, 0⟩
    let w := (start { Gateway.ofConfig {} with metrics := some {} } ⟨"readings.db", 3, 10, 10⟩).run
      [turn, turn, turn, turn, turn, .enqueue r, .stop, turn, turn, turn, turn, turn, turn]
    w.place = .ended (.ok ()) ∧ w.rows = [r] ∧ w.gateway.queue.delivered = 1
      ∧ w.gateway.metrics.map (·.readingsPersisted) = some 0 :=
  ⟨rfl, rfl, rfl, rfl⟩

end Worker

end SensorGateway
