import Mathlib.Data.List.Basic
import SensorGateway.Proofs.Storage.Connection
import SensorGateway.Proofs.Storage.Delivery

/-!
One pass of a drain.

`tally` goes through the answers to a whole batch, while a transaction asks for them one by one:
`insertEach` is that loop, against any database that answers from a state of its own. The two come
to the same (`insertEach_table`), and an insert is asked for only as long as the transaction stands,
which is what `attempted` tells of a batch whose entries have their outcomes fixed beforehand.

Readings come in while a pass runs. `drainAmid` is the drain with those that come before the batch is
offered and those that come before what was stored is taken out; with none it is the drain of the
queue, and in general that of a queue at work (`run_drainAmid`). `drain_all_or_nothing` says what such
a pass comes to: everything that it can do, or nothing at all.
-/

set_option autoImplicit false

namespace SensorGateway.Storage

open Database (endsTransaction)

/-- An entry of a batch, with what its insert comes to. -/
abbrev Outcome := Reading × Verdict

namespace Queue

/-! ## One insert after the other -/

/-- **The inserts of a transaction,** one after the other, up to the first that rolls it back. -/
def insertEach {σ : Type} (answer : σ → Reading → Verdict × σ) : σ → List Reading → Tally × σ
  | s, [] => ({}, s)
  | s, r :: rs =>
    match answer s r with
    | (.done, s) =>
      let (t, s) := insertEach answer s rs
      ({ t with stored := true :: t.stored }, s)
    | (.refused fault, s) =>
      let (t, s) := insertEach answer s rs
      ({ t with stored := false :: t.stored, refusals := (r.sensor, fault) :: t.refusals }, s)
    | (.rolledBack fault, s) => ({ aborted := some fault }, s)

/-- **The tally of all answers is the tally of one insert after the other.** -/
theorem insertEach_table (t : ReadingTable) (batch : List Reading) :
    insertEach ReadingTable.insert t batch
      = (tally batch (Database.insertAll t batch).1, (Database.insertAll t batch).2) := by
  -- the table goes on from one insert to the next, so it is not fixed in the induction
  induction batch generalizing t with
  | nil => rfl
  | cons r rs ih =>
    rw [insertEach, Database.insertAll]
    rcases t.insert r with ⟨_ | fault | fault, t'⟩
    · simp only [ih t', tally]
    · simp only [ih t', tally]
    · rfl

/-- A database that answers from a list and writes down what it is asked for. -/
def scripted : List Verdict × List Reading → Reading → Verdict × (List Verdict × List Reading)
  | (v :: vs, asked), r => (v, (vs, asked ++ [r]))
  | ([], asked), r => (.done, ([], asked ++ [r]))

/-- Answers that are given one by one come to the tally of them all. -/
theorem insertEach_scripted (entries : List Outcome) (asked : List Reading) :
    (insertEach scripted (entries.map (·.2), asked) (entries.map (·.1))).1
      = tally (entries.map (·.1)) (entries.map (·.2)) := by
  induction entries generalizing asked with
  | nil => rfl
  | cons e es ih =>
    obtain ⟨r, v⟩ := e
    have hrest := ih (asked ++ [r])
    rw [List.map_cons, List.map_cons, insertEach, scripted]
    rcases v with _ | fault | fault
    · simp only [hrest, tally]
    · simp only [hrest, tally]
    · rfl

/-- **The readings of a batch whose inserts are asked for,** in that order. -/
def attempted (entries : List Outcome) : List Reading :=
  (insertEach scripted (entries.map (·.2), []) (entries.map (·.1))).2.2

/-- As long as nothing rolls the transaction back, every insert is asked for, and then the next. -/
theorem insertEach_scripted_append {front : List Outcome}
    (hfront : ∀ e ∈ front, endsTransaction e.2 = false) (vs : List Verdict) (rs : List Reading)
    (asked : List Reading) :
    (insertEach scripted (front.map (·.2) ++ vs, asked) (front.map (·.1) ++ rs)).2
      = (insertEach scripted (vs, asked ++ front.map (·.1)) rs).2 := by
  induction front generalizing asked with
  | nil => simp
  | cons e es ih =>
    obtain ⟨r, v⟩ := e
    have hgoes : endsTransaction v = false := hfront (r, v) List.mem_cons_self
    -- the entry uses up its own answer, so `vs` is still what answers `rs`
    have hrest := ih (fun e he => hfront e (List.mem_cons_of_mem _ he)) (asked ++ [r])
    rw [List.append_assoc] at hrest
    rcases v with _ | fault | fault
    · exact hrest
    · exact hrest
    · cases hgoes

/-- A transaction that stands has asked for the insert of its whole batch. -/
theorem attempted_of_stands {entries : List Outcome}
    (h : ∀ e ∈ entries, endsTransaction e.2 = false) : attempted entries = entries.map (·.1) := by
  have hall := insertEach_scripted_append h [] [] []
  simp only [List.append_nil, List.nil_append] at hall
  rw [attempted, hall]
  rfl

/-- Nothing is asked for behind an entry that rolls the transaction back. -/
theorem attempted_of_rolledBack {front : List Outcome}
    (hfront : ∀ e ∈ front, endsTransaction e.2 = false) (r : Reading) (fault : Fault)
    (back : List Outcome) :
    attempted (front ++ (r, .rolledBack fault) :: back) = front.map (·.1) ++ [r] := by
  have hall := insertEach_scripted_append hfront (.rolledBack fault :: back.map (·.2))
    (r :: back.map (·.1)) []
  rw [attempted, List.map_append, List.map_append]
  exact congrArg Prod.snd hall

/-! ## What the tally says of a transaction that stands -/

/-- Whether an insert was done. -/
def isDone (e : Outcome) : Bool := e.2 = .done

theorem count_map_isDone (entries : List Outcome) :
    (entries.map isDone).count true = (entries.filter isDone).length := by
  have hsame : ((· == true) ∘ isDone) = isDone := by
    funext e
    simp
  rw [List.count, List.countP_map, hsame, List.countP_eq_length_filter]

/-- **Each entry is marked as done or is refused,** and both are counted. -/
theorem tally_of_stands {entries : List Outcome}
    (h : ∀ e ∈ entries, endsTransaction e.2 = false) :
    let t := tally (entries.map (·.1)) (entries.map (·.2))
    t.aborted = none ∧ t.stored = entries.map isDone
      ∧ t.refusals.length = (entries.filter (! isDone ·)).length := by
  induction entries with
  | nil => exact ⟨rfl, rfl, rfl⟩
  | cons e es ih =>
    obtain ⟨r, v⟩ := e
    have hgoes : endsTransaction v = false := h (r, v) List.mem_cons_self
    obtain ⟨habort, hstored, hrefused⟩ := ih fun e he => h e (List.mem_cons_of_mem _ he)
    rcases v with _ | fault | fault
    · exact ⟨habort, congrArg (true :: ·) hstored, hrefused⟩
    · exact ⟨habort, congrArg (false :: ·) hstored, congrArg (· + 1) hrefused⟩
    · cases hgoes

/-- **An entry that rolls back aborts the whole,** whatever is behind it. -/
theorem tally_of_rolledBack {front : List Outcome}
    (hfront : ∀ e ∈ front, endsTransaction e.2 = false) (r : Reading) (fault : Fault)
    (back : List Outcome) :
    let entries := front ++ (r, .rolledBack fault) :: back
    (tally (entries.map (·.1)) (entries.map (·.2))).aborted = some fault := by
  induction front with
  | nil => rfl
  | cons e es ih =>
    obtain ⟨r', v⟩ := e
    have hgoes : endsTransaction v = false := hfront (r', v) List.mem_cons_self
    have hrest := ih fun e he => hfront e (List.mem_cons_of_mem _ he)
    rcases v with _ | fault' | fault'
    · exact hrest
    · exact hrest
    · cases hgoes

/-- What is taken out leaves the refused entries, in order. -/
theorem unlink_map_isDone (entries : List Outcome) :
    unlink (entries.map isDone) (entries.map (·.1))
      = (entries.filter (! isDone ·)).map (·.1) := by
  induction entries with
  | nil => rfl
  | cons e es ih =>
    rw [List.map_cons, List.map_cons, List.filter_cons]
    rcases hdone : isDone e
    · rw [unlink, ih]
      rfl
    · rw [unlink, ih]
      rfl

/-- What is written are the entries that are done, in order. -/
theorem picked_map_isDone (entries : List Outcome) :
    picked (entries.map isDone) (entries.map (·.1)) = (entries.filter isDone).map (·.1) := by
  induction entries with
  | nil => rfl
  | cons e es ih =>
    rw [List.map_cons, List.map_cons, List.filter_cons]
    rcases hdone : isDone e
    · rw [picked, ih]
      rfl
    · rw [picked, ih]
      rfl

/-- A transaction stands, or there is a first entry that rolls it back. -/
theorem exists_rolledBack {entries : List Outcome}
    (h : ∃ e ∈ entries, endsTransaction e.2 = true) :
    ∃ front r fault back, entries = front ++ (r, .rolledBack fault) :: back
      ∧ ∀ e ∈ front, endsTransaction e.2 = false := by
  induction entries with
  | nil =>
    obtain ⟨e, hmem, -⟩ := h
    cases hmem
  | cons e es ih =>
    obtain ⟨r, v⟩ := e
    by_cases hends : endsTransaction v = true
    -- an entry that ends the transaction here is the first one, whatever is behind it
    · rcases v with _ | fault | fault
      · cases hends
      · cases hends
      · exact ⟨[], r, fault, es, rfl, by simp⟩
    · have hlater : ∃ e ∈ es, endsTransaction e.2 = true := by
        obtain ⟨e, hmem, he⟩ := h
        rcases List.mem_cons.mp hmem with rfl | htail
        · exact absurd he hends
        · exact ⟨e, htail, he⟩
      obtain ⟨front, r', fault, back, hsplit, hfront⟩ := ih hlater
      refine ⟨(r, v) :: front, r', fault, back, congrArg ((r, v) :: ·) hsplit, ?_⟩
      intro e he
      rcases List.mem_cons.mp he with rfl | htail
      · exact Bool.eq_false_iff.mpr hends
      · exact hfront e htail

/-- Whether a transaction comes to its first insert. -/
def Begins (q : Queue) (v : Verdicts) : Prop :=
  q.connection.isSome = true ∧ v.opening = none ∧ v.preparing = none

/-- **What an offer comes to once it begins.** The first insert that rolls back decides before the
commit is tried, and only a batch that passes both is answered with its tally. -/
theorem offer_of_begins {q : Queue} {v : Verdicts} (h : q.Begins v) {batch : List Reading}
    (hbatch : batch ≠ []) :
    (q.offer batch v).1 = match (tally batch v.rows).aborted, v.committing with
      | some fault, _ => .error (.transactionAborted fault)
      | none, some fault => .error (.database fault)
      | none, none => .ok (tally batch v.rows) := by
  obtain ⟨hconn, hopen, hprepare⟩ := h
  obtain ⟨c, hc⟩ := Option.isSome_iff_exists.mp hconn
  have hsome : batch.isEmpty = false := List.isEmpty_eq_false_iff.mpr hbatch
  simp only [offer, hsome, hc, hopen, hprepare, Bool.false_eq_true, if_false]
  rcases (tally batch v.rows).aborted with _ | fault
  · rcases v.committing with _ | fault
    · rfl
    · rfl
  · rfl

/-! ## Readings that come in meanwhile -/

/-- The queue after some more readings have come in. -/
def enqueueAll (q : Queue) (rs : List Reading) : Queue := rs.foldl enqueue q

/-- Readings come in behind those that wait, and nothing else changes. -/
theorem enqueueAll_eq (q : Queue) (rs : List Reading) :
    q.enqueueAll rs = { q with pending := q.pending ++ rs } := by
  induction rs generalizing q with
  | nil => simp [enqueueAll]
  | cons r rs ih =>
    have hrest := ih (q.enqueue r)
    simp only [enqueueAll, enqueue, List.foldl_cons] at hrest ⊢
    rw [hrest, List.append_assoc]
    rfl

/-- **A drain, with the readings that come in meanwhile:** `early` before the batch is offered, and
`late` before what was stored is taken out. -/
def drainAmid (q : Queue) (v : Verdicts) (early late : List Reading) :
    Except StorageError DrainReport × Queue :=
  match (q.enqueueAll early).offer q.pending v with
  | (.ok t, q, _) => (.ok t.report, (q.enqueueAll late).settle t)
  | (.error e, q, _) => (.error e, q.enqueueAll late)

/-- With nothing coming in meanwhile, the pass is the drain of the queue. -/
theorem drainAmid_nil (q : Queue) (v : Verdicts) :
    q.drainAmid v [] [] = ((q.drain v).1, (q.drain v).2.1) := by
  simp only [drainAmid, drain, enqueueAll, List.foldl_nil]
  rcases q.offer q.pending v with ⟨e | t, q', notices⟩
  · rfl
  · rfl

variable {q : Queue} {v : Verdicts} {early late : List Reading}

/-- A pass that is answered settles its tally after the late readings have come in. -/
theorem drainAmid_of_ok {t : Tally} (h : ((q.enqueueAll early).offer q.pending v).1 = .ok t) :
    q.drainAmid v early late
      = (.ok t.report,
          (((q.enqueueAll early).offer q.pending v).2.1.enqueueAll late).settle t) := by
  rcases hoffer : (q.enqueueAll early).offer q.pending v with ⟨result, q', notices⟩
  rw [hoffer] at h
  obtain rfl : result = .ok t := h
  simp only [drainAmid, hoffer]

/-- A pass that is not answered settles nothing. -/
theorem drainAmid_of_error {e : StorageError}
    (h : ((q.enqueueAll early).offer q.pending v).1 = .error e) :
    q.drainAmid v early late
      = (.error e, ((q.enqueueAll early).offer q.pending v).2.1.enqueueAll late) := by
  rcases hoffer : (q.enqueueAll early).offer q.pending v with ⟨result, q', notices⟩
  rw [hoffer] at h
  obtain rfl : result = .error e := h
  simp only [drainAmid, hoffer]

/-- Readings that come in do not change what an offer leaves in the database. -/
theorem writtenBy_enqueueAll (q : Queue) (rs batch : List Reading) (v : Verdicts) :
    (q.enqueueAll rs).writtenBy batch v = q.writtenBy batch v := by
  rw [enqueueAll_eq]
  rfl

/-- Whatever an offer comes to, the readings that wait are those of its batch and those that have
come in, and none is counted as delivered. -/
theorem waiting_offer (q : Queue) (v : Verdicts) (early late : List Reading) :
    let after := ((q.enqueueAll early).offer q.pending v).2.1.enqueueAll late
    after.pending = q.pending ++ (early ++ late) ∧ after.delivered = q.delivered := by
  obtain ⟨⟨hpending, hdelivered⟩, -⟩ := (q.enqueueAll early).offer_spec q.pending v
  intro after
  have hafter : after = _ := enqueueAll_eq _ late
  rw [hafter]
  dsimp only
  rw [hpending, hdelivered, enqueueAll_eq, ← List.append_assoc]
  exact ⟨rfl, rfl⟩

/-- **A pass that fails leaves everything as it was:** all readings wait, none is counted, and the
database has kept none. -/
theorem drainAmid_fails {e : StorageError} (h : (q.drainAmid v early late).1 = .error e) :
    (q.drainAmid v early late).2.pending = q.pending ++ (early ++ late)
      ∧ (q.drainAmid v early late).2.delivered = q.delivered
      ∧ q.writtenBy q.pending v = [] ∧ e.isFatal = false := by
  obtain ⟨-, hwritten⟩ := (q.enqueueAll early).offer_spec q.pending v
  have hwaiting := q.waiting_offer v early late
  rcases hresult : ((q.enqueueAll early).offer q.pending v).1 with e' | t
  · rw [hresult, writtenBy_enqueueAll] at hwritten
    rw [drainAmid_of_error hresult] at h ⊢
    cases h
    exact ⟨hwaiting.1, hwaiting.2, hwritten, isFatal_offer hresult⟩
  · rw [drainAmid_of_ok hresult] at h
    cases h

/-- Whether a transaction begins does not depend on what waits. -/
theorem begins_enqueueAll (h : q.Begins v) (rs : List Reading) : (q.enqueueAll rs).Begins v := by
  rw [enqueueAll_eq]
  exact h

/-- A pass over an empty queue asks the database nothing. -/
theorem drainAmid_of_empty (h : q.pending = []) (v : Verdicts) (early late : List Reading) :
    (q.drainAmid v early late).1 = .ok {}
      ∧ (q.drainAmid v early late).2.pending = early ++ late
      ∧ (q.drainAmid v early late).2.delivered = q.delivered := by
  have hoffer : ((q.enqueueAll early).offer q.pending v).1 = .ok {} := by
    rw [h]
    rfl
  obtain ⟨hwaits, hcounted⟩ := q.waiting_offer v early late
  rw [drainAmid_of_ok hoffer]
  refine ⟨rfl, ?_, hcounted⟩
  refine (unlink_nil_marks _).trans (hwaits.trans ?_)
  rw [h, List.nil_append]

/-- **A pass whose transaction stands does all it can:** what is done is written and taken out, and
what is refused stays where it was. -/
theorem drainAmid_of_stands {entries : List Outcome} (hpending : q.pending = entries.map (·.1))
    (hrows : v.rows = entries.map (·.2)) (hbegins : q.Begins v) (hcommit : v.committing = none)
    (hstands : ∀ e ∈ entries, endsTransaction e.2 = false) (early late : List Reading) :
    q.writtenBy q.pending v = (entries.filter isDone).map (·.1)
      ∧ (q.drainAmid v early late).1
        = .ok ⟨(entries.filter isDone).length, (entries.filter (! isDone ·)).length⟩
      ∧ (q.drainAmid v early late).2.pending
        = (entries.filter (! isDone ·)).map (·.1) ++ (early ++ late)
      ∧ (q.drainAmid v early late).2.delivered
        = q.delivered + (entries.filter isDone).length := by
  obtain ⟨habort, hstored, hrefused⟩ := tally_of_stands hstands
  have hlen : (entries.map isDone).length ≤ (entries.map (·.1)).length := by
    simp only [List.length_map, Nat.le_refl]
  have hoffer : ((q.enqueueAll early).offer q.pending v).1
      = .ok (tally (entries.map (·.1)) (entries.map (·.2))) := by
    rw [hpending]
    -- an empty batch is answered without the database, so `offer_of_begins` does not apply to it
    by_cases hempty : entries.map (·.1) = []
    · obtain rfl := List.map_eq_nil_iff.mp hempty
      rfl
    · rw [offer_of_begins (begins_enqueueAll hbegins early) hempty, hrows, habort, hcommit]
  obtain ⟨hwaits, hcounted⟩ := q.waiting_offer v early late
  obtain ⟨-, hkept⟩ := (q.enqueueAll early).offer_spec q.pending v
  rw [hoffer] at hkept
  have hreport : (tally (entries.map (·.1)) (entries.map (·.2))).report
      = ⟨(entries.filter isDone).length, (entries.filter (! isDone ·)).length⟩ := by
    rw [Tally.report, hstored, count_map_isDone, hrefused]
  rw [drainAmid_of_ok hoffer, hreport]
  refine ⟨?_, rfl, ?_, ?_⟩
  · rw [← writtenBy_enqueueAll q early, ← hkept.2, hstored, hpending, picked_map_isDone]
  · -- the marks end with the batch, so what has come in behind it stays
    rw [settle]
    dsimp only
    rw [hwaits, hpending, hstored, unlink_append hlen, unlink_map_isDone]
  · rw [settle]
    dsimp only
    rw [hcounted, hreport]

/-- **A pass that meets an entry that rolls back is aborted** with the fault of that entry, whatever
the commit would have come to. -/
theorem drainAmid_of_rolledBack {front back : List Outcome} {r : Reading} {fault : Fault}
    (hpending : q.pending = (front ++ (r, .rolledBack fault) :: back).map (·.1))
    (hrows : v.rows = (front ++ (r, .rolledBack fault) :: back).map (·.2)) (hbegins : q.Begins v)
    (hfront : ∀ e ∈ front, endsTransaction e.2 = false) :
    (q.drainAmid v early late).1 = .error (.transactionAborted fault) := by
  -- the entry itself is in the batch, so the offer goes to the database
  have hsome : q.pending ≠ [] := by
    rw [hpending]
    simp
  have habort := tally_of_rolledBack hfront r fault back
  have hoffer : ((q.enqueueAll early).offer q.pending v).1
      = .error (.transactionAborted fault) := by
    -- an aborted tally is decided before the commit, so nothing is assumed of `v.committing`
    rw [offer_of_begins (begins_enqueueAll hbegins early) hsome, hpending, hrows, habort]
  rw [drainAmid_of_error hoffer]

end Queue

namespace Delivery

variable {d : Delivery}

theorem run_append (d : Delivery) (events more : List Event) :
    d.run (events ++ more) = (d.run events).run more := List.foldl_append

/-- Whatever stage a drain has come to, readings that come in are appended and change nothing else. -/
theorem run_enqueues (d : Delivery) (rs : List Reading) :
    d.run (rs.map .enqueue)
      = { d with queue := d.queue.enqueueAll rs, enqueued := d.enqueued ++ rs } := by
  induction rs generalizing d with
  | nil => simp [run, Queue.enqueueAll]
  | cons r rs ih =>
    have hrest := ih (d.step (.enqueue r))
    rw [List.map_cons, run, List.foldl_cons]
    refine hrest.trans ?_
    simp only [step, Queue.enqueueAll, List.foldl_cons, List.append_assoc, List.singleton_append]

/-- **A drain with readings that come in meanwhile is a run of a queue at work.** -/
theorem run_drainAmid (h : d.stage = .idle) (v : Verdicts) (early late : List Reading) :
    let after := d.run
      ([.drain] ++ early.map .enqueue ++ [.answer v] ++ late.map .enqueue ++ [.settle])
    after.queue = (d.queue.drainAmid v early late).2
      ∧ after.stage = .idle
      ∧ after.rows = d.rows ++ d.queue.writtenBy d.queue.pending v := by
  have hwritten := d.queue.writtenBy_enqueueAll early d.queue.pending v
  -- the readings between the stages are run as two blocks, and only the stages are stepped through
  simp only [run_append, run_enqueues]
  simp only [run, List.foldl_cons, List.foldl_nil, step, h, answered, Queue.drainAmid]
  rcases (d.queue.enqueueAll early).offer d.queue.pending v with ⟨e | t, q, notices⟩
  · exact ⟨rfl, rfl, congrArg (d.rows ++ ·) hwritten⟩
  · exact ⟨rfl, rfl, congrArg (d.rows ++ ·) hwritten⟩

end Delivery

namespace Queue

/-- **One pass does all it can, or nothing at all.** Whatever the database makes of the entries of a
batch, and whatever comes in meanwhile: the tally of the batch is that of one insert after the other,
against answers that are fixed beforehand and against the table that a transaction runs on, state
included. A pass over an empty queue reports nothing, connected or not. If the transaction stands and
is committed, the insert of every entry is asked for once, in order; those that were done are
written, in order, and those that were refused are left in order in front of what came in; the report
adds up to the batch, and as many are counted as delivered as were written. If an entry rolls the
transaction back, no insert behind it is asked for and the pass is aborted. And a pass that fails, in
whatever way, leaves what waits, what was counted and the database as they were. -/
theorem drain_all_or_nothing (q : Queue) (v : Verdicts) (entries : List Outcome)
    (early late : List Reading) :
    let batch := entries.map (·.1)
    let q := { q with pending := batch }
    let v := { v with rows := entries.map (·.2) }
    let pass := q.drainAmid v early late
    let written := q.writtenBy batch v
    (insertEach scripted (v.rows, []) batch).1 = tally batch v.rows
      ∧ (∀ t : ReadingTable, insertEach ReadingTable.insert t batch
        = (tally batch (Database.insertAll t batch).1, (Database.insertAll t batch).2))
      ∧ (entries = [] → pass.1 = .ok {} ∧ pass.2.pending = early ++ late
        ∧ pass.2.delivered = q.delivered ∧ written = [])
      ∧ (q.Begins v → v.committing = none → (∀ e ∈ entries, endsTransaction e.2 = false) →
        attempted entries = batch
          ∧ written = (entries.filter isDone).map (·.1)
          ∧ pass.2.pending = (entries.filter (! isDone ·)).map (·.1) ++ (early ++ late)
          ∧ ∃ report, pass.1 = .ok report ∧ report.persisted + report.failed = batch.length
            ∧ report.persisted = written.length
            ∧ pass.2.delivered = q.delivered + report.persisted)
      ∧ (q.Begins v → (∃ e ∈ entries, endsTransaction e.2 = true) →
        ∃ front r fault back, entries = front ++ (r, .rolledBack fault) :: back
          ∧ attempted entries = front.map (·.1) ++ [r]
          ∧ pass.1 = .error (.transactionAborted fault))
      ∧ ∀ e, pass.1 = .error e →
        pass.2.pending = batch ++ (early ++ late) ∧ pass.2.delivered = q.delivered
          ∧ written = [] ∧ e.isFatal = false := by
  intro batch q v pass written
  refine ⟨insertEach_scripted entries [], fun t => insertEach_table t batch, ?_, ?_, ?_,
    fun e => drainAmid_fails⟩
  · intro hempty
    have hbatch : q.pending = [] := List.map_eq_nil_iff.mpr hempty
    obtain ⟨hreport, hwaits, hcounted⟩ := drainAmid_of_empty hbatch v early late
    refine ⟨hreport, hwaits, hcounted, ?_⟩
    exact (congrArg (q.writtenBy · v) hbatch).trans (q.writtenBy_nil v)
  · intro hbegins hcommit hstands
    obtain ⟨hwritten, hreport, hwaits, hcounted⟩ := drainAmid_of_stands rfl rfl hbegins
      hcommit hstands early late
    have hlength : written.length = (entries.filter isDone).length := by
      have hcount := congrArg List.length hwritten
      rw [List.length_map] at hcount
      exact hcount
    refine ⟨attempted_of_stands hstands, hwritten, hwaits, _, hreport, ?_, hlength.symm, hcounted⟩
    rw [List.length_map]
    exact (List.length_eq_length_filter_add isDone).symm
  · intro hbegins hends
    obtain ⟨front, r, fault, back, rfl, hfront⟩ := exists_rolledBack hends
    exact ⟨front, r, fault, back, rfl, attempted_of_rolledBack hfront r fault back,
      drainAmid_of_rolledBack rfl rfl hbegins hfront⟩

/-- A reading is refused between two that are done, while another comes in; and in a second batch one
rolls back what was done before it. -/
theorem drain_all_or_nothing_when_mixed :
    let r : Reading := ⟨100, ⟨1⟩, ⟨0⟩, true⟩
    let r' : Reading := ⟨101, ⟨2⟩, ⟨0⟩, true⟩
    let mixed : List Outcome := [(r, .done), (r', .refused .noTable), (r, .done)]
    let spoilt : List Outcome := [(r, .done), (r', .rolledBack .noTable), (r, .done)]
    let q : Queue := { settings := ⟨"readings.db", 3, 10, 10⟩, connection := some {} }
    q.Begins {} ∧ (∀ e ∈ mixed, endsTransaction e.2 = false) ∧ attempted mixed = [r, r', r]
      ∧ (drainAmid { q with pending := mixed.map (·.1) } { rows := mixed.map (·.2) } [r] []).2.pending
        = [r', r]
      ∧ (∃ e ∈ spoilt, endsTransaction e.2 = true) ∧ attempted spoilt = [r, r']
      ∧ ∃ front r fault back, spoilt = front ++ (r, .rolledBack fault) :: back
        ∧ attempted spoilt = front.map (·.1) ++ [r]
        ∧ (drainAmid { q with pending := spoilt.map (·.1) } { rows := spoilt.map (·.2) } [] []).1
          = .error (.transactionAborted fault) := by
  intro r r' mixed spoilt q
  have hbegins : q.Begins {} := ⟨rfl, rfl, rfl⟩
  have hstands : ∀ e ∈ mixed, endsTransaction e.2 = false := by decide
  have hends : ∃ e ∈ spoilt, endsTransaction e.2 = true := by decide
  obtain ⟨-, -, -, hall, -⟩ := drain_all_or_nothing q {} mixed [r] []
  obtain ⟨hattempted, -, hwaits, -⟩ := hall hbegins rfl hstands
  obtain ⟨-, -, -, -, habort, -⟩ := drain_all_or_nothing q {} spoilt [] []
  exact ⟨hbegins, hstands, hattempted, hwaits, hends, rfl, habort hbegins hends⟩

end Queue

end SensorGateway.Storage
