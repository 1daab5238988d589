import Mathlib.Data.List.Chain
import SensorGateway.Proofs.Gateway.Worker

/-!
When the storage worker gives up.

The worker counts failures to open the database. What it has done is on record, so the count can be
held against the record at every move: it is the number of attempts that failed since one did not,
and at the limit the worker has ended. A drain, however it fails, is never counted, and the next
thing that the worker does to the database is to open it again.
-/

set_option autoImplicit false

namespace SensorGateway

open Storage

/-! ## What the record says -/

namespace Deed

def attempt? : Deed → Option (Except Fault Connection)
  | attempt answer => some answer
  | drain _ => none

/-- How many attempts have failed since one did not. -/
def failuresInRow (history : List Deed) : Nat :=
  ((history.filterMap attempt?).takeWhile (! ·.isOk)).length

/-- The last thing that was done is a drain that failed. -/
def LastFailed (history : List Deed) : Prop := ∃ e older, history = drain (.error e) :: older

/-- Behind a drain that failed comes an attempt. -/
def Reconnects (newer older : Deed) : Prop :=
  ∀ e, older = drain (.error e) → ∃ answer, newer = attempt answer

variable {history : List Deed}

/-- An attempt that opens the database ends the row. -/
@[simp] theorem failuresInRow_opened (c : Connection) :
    failuresInRow (attempt (.ok c) :: history) = 0 := rfl

/-- One that fails makes it longer. -/
@[simp] theorem failuresInRow_failed (fault : Fault) :
    failuresInRow (attempt (.error fault) :: history) = failuresInRow history + 1 := rfl

/-- A drain is not part of the row. -/
@[simp] theorem failuresInRow_drained (result : Except StorageError DrainReport) :
    failuresInRow (drain result :: history) = failuresInRow history := rfl

theorem not_lastFailed_attempt (answer : Except Fault Connection) :
    ¬ LastFailed (attempt answer :: history) := by
  rintro ⟨e, older, hlast⟩
  cases hlast

end Deed

/-! ## The invariant -/

namespace Worker

open Deed

variable {L : Nat} {w : Worker} {q q' : Queue} {history : List Deed}

/-- What holds wherever the worker stands. -/
structure Books (L : Nat) (q : Queue) (history : List Deed) : Prop where
  limit : q.settings.retryLimit = L
  agrees : q.Agrees
  count : q.retryCount = failuresInRow history
  reconnects : history.IsChain Reconnects

/-- What holds where the worker stands. Only at its end the limit is reached; the database is open
during a drain, and closed after one that failed. -/
def Stands (L : Nat) (q : Queue) (history : List Deed) : Place → Prop
  | .looking | .connecting =>
    failuresInRow history < L ∧ (LastFailed history → q.status = .disconnected)
  | .copying _ | .offering _ _ | .settling _ _ =>
    failuresInRow history < L ∧ q.status = .connected ∧ ¬ LastFailed history
  | .waiting outcome _ =>
    failuresInRow history < L ∧ (LastFailed history → q.status = .disconnected)
      ∧ (∀ n, outcome = .ok (.backoff n) → n = failuresInRow history)
      ∧ ∀ e, outcome = .error e → e.isFatal = false ∧ ∃ older, history = .drain (.error e) :: older
  | .closing _ | .ended (.ok _) => failuresInRow history < L
  | .ended (.error e) => e = .retryLimitReached L ∧ failuresInRow history = L

/-- **What every move keeps.** -/
structure Kept (L : Nat) (w : Worker) : Prop where
  books : Books L w.gateway.queue w.history
  stands : Stands L w.gateway.queue w.history w.place

/-- A new worker has done nothing, and its limit is not reached at zero. -/
theorem kept_start (g : Gateway) {settings : QueueSettings} (h : 1 ≤ settings.retryLimit) :
    (start g settings).Kept settings.retryLimit := by
  refine ⟨⟨rfl, ?_, rfl, List.IsChain.nil⟩, h, ?_⟩
  · constructor
    · intro hsome
      cases hsome
    · intro hstatus
      cases hstatus
  · rintro ⟨e, older, hnone⟩
    cases hnone

/-- What the books say is a matter of the connection, the settings and the count. -/
theorem Books.link (h : Books L q history) (hsame : q.SameLink q') : Books L q' history := by
  refine ⟨?_, h.agrees.congr hsame, ?_, h.reconnects⟩
  · rw [hsame.settings, h.limit]
  · rw [hsame.retryCount, h.count]

/-- Behind a drain that failed, a new deed has to be an attempt. -/
theorem Books.chain (h : Books L q history) {d : Deed}
    (hnext : LastFailed history → ∃ answer, d = .attempt answer) :
    (d :: history).IsChain Reconnects := by
  have hold := h.reconnects
  rcases history with _ | ⟨older, rest⟩
  · exact List.IsChain.singleton d
  · refine List.IsChain.cons_cons ?_ hold
    rintro e rfl
    exact hnext ⟨e, rest, rfl⟩

/-- A database that is open was not closed by a drain that failed. -/
theorem not_lastFailed (hclosed : LastFailed history → q.status = .disconnected)
    (hstatus : q.status = .connected) : ¬ LastFailed history := by
  intro hlast
  rw [hclosed hlast] at hstatus
  cases hstatus

/-! ## Moves -/

/-- What happens to the readings in the queue does not concern the invariant. -/
theorem Kept.still (h : w.Kept L) (hsame : w.gateway.queue.SameLink q) :
    Books L q w.history ∧ Stands L q w.history w.place := by
  obtain ⟨hbooks, hstands⟩ := h
  refine ⟨hbooks.link hsame, ?_⟩
  unfold Stands at hstands ⊢
  rw [hsame.status]
  exact hstands

/-- Looking, the worker goes on from where it waited, or it goes to its end. -/
theorem Kept.look (h : w.Kept L) (hplace : w.place = .looking) : w.look.Kept L := by
  obtain ⟨hbooks, hstands⟩ := h
  rw [hplace] at hstands
  obtain ⟨hbelow, hclosed⟩ := hstands
  unfold Worker.look
  split
  · split
    next hstatus => exact ⟨hbooks, hbelow, hstatus, not_lastFailed hclosed hstatus⟩
    next => exact ⟨hbooks, hbelow⟩
  · exact ⟨hbooks, hbelow, hclosed⟩

theorem history_connect (h : w.gateway.queue.status = .disconnected)
    (attempt : Except Fault Connection) (wall : Int) :
    (w.connect attempt wall).history = .attempt attempt :: w.history := by
  rcases attempt with fault | c
  · rw [connect_of_error h, history_conclude]
    rfl
  · rw [connect_of_ok h]
    rfl

/-- **An attempt that fails is counted,** and ends the worker if the count has come to the limit.
One that succeeds starts the count again. -/
theorem Kept.connect (h : w.Kept L) (hplace : w.place = .connecting)
    (attempt : Except Fault Connection) (wall : Int) : (w.connect attempt wall).Kept L := by
  obtain ⟨hbooks, hstands⟩ := h
  rw [hplace] at hstands
  obtain ⟨hbelow, hclosed⟩ := hstands
  have hchain := hbooks.chain (d := .attempt attempt) fun _ => ⟨attempt, rfl⟩
  rcases hstatus : w.gateway.queue.status
  · rw [connect_of_connected hstatus]
    exact ⟨hbooks, hbelow, hstatus, not_lastFailed hclosed hstatus⟩
  · rcases attempt with fault | c
    · have hcount : (w.gateway.queue.failed wall).retryCount
          = failuresInRow (.attempt (.error fault) :: w.history) := by
        rw [failuresInRow_failed, ← hbooks.count]
        rfl
      have hnoted : Books L (w.gateway.queue.failed wall) (.attempt (.error fault) :: w.history) :=
        ⟨hbooks.limit, w.gateway.queue.agrees_failed wall, hcount, hchain⟩
      rw [connect_of_error hstatus, hbooks.limit, hbooks.count]
      by_cases hlimit : L ≤ failuresInRow w.history + 1
      · -- the count was below the limit, so it reaches it and does not pass it
        have hreached : failuresInRow w.history + 1 = L := by omega
        rw [if_pos hlimit, hreached]
        rcases conclude_cases _ (.error (.retryLimitReached L)) with ⟨e, herror, -, hend⟩ | ⟨hquiet, -⟩
        · cases herror
          rw [hend]
          exact ⟨hnoted, rfl, hreached⟩
        · cases hquiet _ rfl
      · rw [if_neg hlimit]
        rcases conclude_cases _ (.ok (.backoff (failuresInRow w.history + 1)))
          with ⟨e, herror, -, -⟩ | ⟨-, f, delay, hwait⟩
        · cases herror
        · rw [hwait]
          refine ⟨hnoted, Nat.lt_of_not_le hlimit, fun _ => rfl, ?_, ?_⟩
          · rintro n ⟨⟩
            rfl
          · rintro e ⟨⟩
    · rw [connect_of_ok hstatus]
      have hnone : failuresInRow (.attempt (.ok c) :: w.history) < L := by
        rw [failuresInRow_opened]
        omega
      exact ⟨⟨hbooks.limit, w.gateway.queue.agrees_opened c, rfl, hchain⟩, hnone, rfl,
        not_lastFailed_attempt _⟩

/-- A drain is not counted, however it ends; one that failed has closed the database. -/
theorem kept_drained (hbooks : Books L w.gateway.queue w.history)
    (hbelow : failuresInRow w.history < L) (hlast : ¬ LastFailed w.history) (last : Bool)
    {result : Except StorageError DrainReport}
    (hquiet : ∀ e, result = .error e → e.isFatal = false) : (w.drained last result).Kept L := by
  have hchain := hbooks.chain (d := .drain result) fun h => absurd h hlast
  rw [← failuresInRow_drained result] at hbelow
  have hnoted : Books L w.gateway.queue (.drain result :: w.history) :=
    ⟨hbooks.limit, hbooks.agrees, hbooks.count.trans (failuresInRow_drained result).symm, hchain⟩
  rcases last
  · rcases result with e | report
    · -- in a cycle the database is closed behind a drain that failed
      obtain ⟨hagrees, hstatus, hsettings, hcount⟩ := Queue.close_spec hbooks.agrees
      have hclosed : Books L w.gateway.queue.close.1 (.drain (.error e) :: w.history) :=
        ⟨hsettings ▸ hbooks.limit, hagrees, hcount.trans hnoted.count, hchain⟩
      rw [drained, if_neg Bool.false_ne_true]
      rcases conclude_cases _ (.error e) with ⟨e', herror, hfatal, -⟩ | ⟨-, f, delay, hwait⟩
      · cases herror
        rw [hquiet e rfl] at hfatal
        cases hfatal
      · rw [hwait]
        refine ⟨hclosed, hbelow, fun _ => hstatus, ?_, ?_⟩
        · rintro n ⟨⟩
        · rintro e' ⟨⟩
          exact ⟨hquiet e rfl, w.history, rfl⟩
    · rw [drained, if_neg Bool.false_ne_true]
      rcases conclude_cases _ (.ok (.drained report)) with ⟨e, herror, -, -⟩ | ⟨-, f, delay, hwait⟩
      · cases herror
      · rw [hwait]
        refine ⟨hnoted, hbelow, ?_, ?_, ?_⟩
        · rintro ⟨e, older, hfailed⟩
          cases hfailed
        · rintro n ⟨⟩
        · rintro e ⟨⟩
  · -- after the stop signal nothing follows that would look at the result
    exact ⟨hnoted, hbelow⟩

/-- A drain that fails has failed at the database, which is never fatal. -/
theorem Kept.offer (h : w.Kept L) {batch : List Reading} {last : Bool}
    (hplace : w.place = .offering batch last) (v : Verdicts) : (w.offer batch last v).Kept L := by
  obtain ⟨hbooks, hstands⟩ := h
  rw [hplace] at hstands
  obtain ⟨hbelow, hstatus, hlast⟩ := hstands
  have hsame := w.gateway.queue.sameLink_offer batch v
  rcases hresult : (w.gateway.queue.offer batch v).1 with e | t
  · rw [offer_of_error last hresult]
    refine kept_drained ?_ ?_ ?_ last ?_
    · exact hbooks.link hsame
    · exact hbelow
    · exact hlast
    · rintro e' ⟨⟩
      exact Queue.isFatal_offer hresult
  · rw [offer_of_ok last hresult]
    exact ⟨hbooks.link hsame, hbelow, hsame.status.trans hstatus, hlast⟩

/-- A drain that has settled was no failure. -/
theorem Kept.settle (h : w.Kept L) {t : Queue.Tally} {last : Bool}
    (hplace : w.place = .settling t last) : (w.settle t last).Kept L := by
  obtain ⟨hbooks, hstands⟩ := h
  rw [hplace] at hstands
  obtain ⟨hbelow, -, hlast⟩ := hstands
  refine kept_drained ?_ ?_ ?_ last ?_
  · exact hbooks.link (w.gateway.queue.sameLink_settle t)
  · exact hbelow
  · exact hlast
  · rintro e ⟨⟩

theorem Kept.close (h : w.Kept L) {result : Except StorageError DrainReport}
    (hplace : w.place = .closing result) :
    Kept L { w with gateway := (w.gateway.closeStore result).1, place := .ended (.ok ()) } := by
  obtain ⟨hbooks, hstands⟩ := h
  rw [hplace] at hstands
  obtain ⟨hagrees, -, hsettings, hcount⟩ := Queue.close_spec hbooks.agrees
  exact ⟨⟨hsettings ▸ hbooks.limit, hagrees, hcount.trans hbooks.count, hbooks.reconnects⟩, hstands⟩

/-- Each move of the worker keeps the invariant, each from its own place. -/
theorem Kept.work (h : w.Kept L) (answers : Queue.Answers) (now : Moment) :
    (w.work answers now).Kept L := by
  unfold Worker.work
  split
  next hplace => exact h.look hplace
  next hplace => exact h.connect hplace answers.attempt now.wall
  -- the copy is taken out of the queue without a look at the database
  next last hplace =>
    have hstands := h.stands
    rw [hplace] at hstands
    exact ⟨h.books, hstands⟩
  next batch last hplace => exact h.offer hplace answers.verdicts
  next t last hplace => exact h.settle hplace
  next hplace =>
    -- the wait is over, and what the last cycle has come to is forgotten
    have hstands := h.stands
    rw [hplace] at hstands
    obtain ⟨hbelow, hclosed, -⟩ := hstands
    exact ⟨h.books, hbelow, hclosed⟩
  next result hplace => exact h.close hplace
  next => exact h

theorem Kept.step (h : w.Kept L) (event : Event) : (w.step event).Kept L := by
  rcases event with r | _ | ⟨answers, now⟩
  · obtain ⟨hbooks, hstands⟩ := h.still (w.gateway.queue.sameLink_enqueue r)
    exact ⟨hbooks, hstands⟩
  · exact ⟨h.books, h.stands⟩
  · exact h.work answers now

theorem Kept.run (h : w.Kept L) (events : List Event) : (w.run events).Kept L := by
  induction events generalizing w with
  | nil => exact h
  | cons event events ih => exact ih (h.step event)

/-! ## The limit -/

/-- Everywhere but at an end with an error the limit is not reached. -/
theorem Stands.cases {place : Place} (h : Stands L q history place) :
    (failuresInRow history < L ∧ ∀ e, place ≠ .ended (.error e))
      ∨ failuresInRow history = L ∧ place = .ended (.error (.retryLimitReached L)) := by
  rcases place with _ | _ | last | ⟨batch, last⟩ | ⟨t, last⟩ | ⟨outcome, delay⟩ | result | result
  · exact Or.inl ⟨h.1, fun e heq => by cases heq⟩
  · exact Or.inl ⟨h.1, fun e heq => by cases heq⟩
  · exact Or.inl ⟨h.1, fun e heq => by cases heq⟩
  · exact Or.inl ⟨h.1, fun e heq => by cases heq⟩
  · exact Or.inl ⟨h.1, fun e heq => by cases heq⟩
  · exact Or.inl ⟨h.1, fun e heq => by cases heq⟩
  · exact Or.inl ⟨h, fun e heq => by cases heq⟩
  · rcases result with e | _
    · obtain ⟨rfl, hreached⟩ := h
      exact Or.inr ⟨hreached, rfl⟩
    · exact Or.inl ⟨h, fun e heq => by cases heq⟩

/-- To have given up is to have reached the limit, and the error tells which one it was. -/
theorem Stands.ended_iff {place : Place} (h : Stands L q history place) (e : StorageError) :
    place = .ended (.error e) ↔ e = .retryLimitReached L ∧ failuresInRow history = L := by
  rcases h.cases with ⟨hbelow, hgoes⟩ | ⟨hreached, rfl⟩
  · constructor
    · intro hend
      exact absurd hend (hgoes e)
    · rintro ⟨-, hlimit⟩
      omega
  · constructor
    · rintro ⟨⟩
      exact ⟨rfl, hreached⟩
    · rintro ⟨rfl, -⟩
      rfl

/-- At the end no drain is under way, so all readings that were not written wait. -/
theorem places_ended (g : Gateway) (settings : QueueSettings) (events : List Event)
    {result : Except StorageError Unit}
    (h : ((start g settings).run events).place = .ended result) :
    let w := (start g settings).run events
    ∃ waiting written, Places w.enqueued w.gateway.queue.pending w.rows waiting written := by
  obtain ⟨-, hplaces, -⟩ := sound_run g settings events
  simp only [Delivery.remaining, delivery, stage, h] at hplaces
  exact hplaces

/-- **The worker gives up at the limit, and only there.** On a new queue, whatever the database
answers and whatever comes between the moves of the worker, at every moment: there is a connection
exactly if the status says so; the count is the number of attempts that have failed since one did
not; the worker has ended with an error exactly if that number is the limit, which it never passes,
and the error tells it; waiting after a failed attempt it tells the number, too; a failed drain makes
it wait, and what it does next to the database is to open it, at the start of its next cycle; and
once it has given up, the readings that no committed insert has written wait, in the order of
appending. -/
theorem gives_up_at_limit (g : Gateway) (settings : QueueSettings) (h : 1 ≤ settings.retryLimit)
    (events : List Event) :
    let w := (start g settings).run events
    let q := w.gateway.queue
    (q.connection.isSome = true ↔ q.status = .connected)
      ∧ q.retryCount = failuresInRow w.history
      ∧ (∀ e, w.place = .ended (.error e)
        ↔ e = .retryLimitReached settings.retryLimit ∧ failuresInRow w.history = settings.retryLimit)
      ∧ failuresInRow w.history ≤ settings.retryLimit
      ∧ (∀ n delay, w.place = .waiting (.ok (.backoff n)) delay → n = failuresInRow w.history)
      ∧ (∀ e delay, w.place = .waiting (.error e) delay →
        e.isFatal = false ∧ ∃ older, w.history = .drain (.error e) :: older)
      ∧ (∀ answers now, w.place = .connecting → LastFailed w.history →
        (w.step (.work answers now)).history = .attempt answers.attempt :: w.history)
      ∧ w.history.IsChain Reconnects
      ∧ (∀ e, w.place = .ended (.error e) →
        ∃ waiting written, Places w.enqueued q.pending w.rows waiting written) := by
  intro w q
  obtain ⟨hbooks, hstands⟩ := (kept_start g h).run events
  refine ⟨hbooks.agrees, hbooks.count, hstands.ended_iff, ?_, ?_, ?_, ?_, hbooks.reconnects, ?_⟩
  · rcases hstands.cases with ⟨hbelow, -⟩ | ⟨hreached, -⟩
    · exact Nat.le_of_lt hbelow
    · exact Nat.le_of_eq hreached
  · intro n delay hplace
    rw [hplace] at hstands
    exact hstands.2.2.1 n rfl
  · intro e delay hplace
    rw [hplace] at hstands
    exact hstands.2.2.2 e rfl
  · intro answers now hplace hlast
    rw [hplace] at hstands
    have hconnect : w.step (.work answers now) = w.connect answers.attempt now.wall := by
      simp only [step, work, hplace]
    rw [hconnect, history_connect (hstands.2 hlast)]
  · intro e hplace
    exact places_ended g settings events hplace

/-- A drain fails, and the limit is 2: the worker gives up after two attempts more. -/
theorem gives_up_at_limit_after_drain :
    let r : Reading := ⟨100, ⟨1⟩, ⟨0⟩, true⟩
    let settings : QueueSettings := ⟨"readings.db", 2, 10, 10⟩
    let broken : Queue.Answers := ⟨.error .notDatabase, {}⟩
    let aborts : Queue.Answers := ⟨.ok {}, { opening := some .noTable }⟩
    let turn (answers : Queue.Answers) : Event := .work answers ⟨0, 0⟩
    let w := (start (Gateway.ofConfig {}) settings).run
      [.enqueue r, turn aborts, turn aborts, turn aborts, turn aborts, turn broken, turn broken,
        turn broken, turn broken, turn broken, turn broken]
    1 ≤ settings.retryLimit ∧ w.place = .ended (.error (.retryLimitReached 2))
      ∧ w.history = [.attempt (.error .notDatabase), .attempt (.error .notDatabase),
        .drain (.error (.database .noTable)), .attempt (.ok {})]
      ∧ w.gateway.queue.pending = [r] ∧ failuresInRow w.history ≤ settings.retryLimit :=
  ⟨by decide, rfl, rfl, rfl, (gives_up_at_limit _ _ (by decide) _).2.2.2.1⟩

end Worker

end SensorGateway
