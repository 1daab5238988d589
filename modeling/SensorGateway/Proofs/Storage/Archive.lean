import Mathlib.Data.List.Induction
import SensorGateway.Proofs.Storage.Contents
import SensorGateway.Proofs.Storage.Delivery

/-!
What can be read of what a queue delivered.

An `Archive` is a queue at work beside the disk that its database is on. It opens and closes the
database and offers batches in any order, and readings come in at any time. The answers to an offer
are free: any insert may be refused, and any transaction may fail. The database takes the rows of what
was written. Where the answers are those that the database gives itself, a drain of an archive is
`Queue.drainOn` and a cycle is `Queue.cycleOn` (`run_drainOn`, `run_cycleOn`).

Two things carry the result. The database keeps the rows of what was written (`Kept`), over every
run in which no row is deleted. And as long as no insert is refused on its own, what was written and
what remains is what was appended, in that order (`InOrder`): a transaction that fails leaves all of
its readings in front of the queue.
-/

set_option autoImplicit false

namespace SensorGateway.Storage

/-! ## Runs in which no insert is refused -/

namespace Queue

/-- Marks that all say yes take from the front. -/
theorem picked_append_unlink {α : Type} {marks : List Bool} (h : ∀ m ∈ marks, m = true)
    (xs : List α) : picked marks xs ++ unlink marks xs = xs := by
  induction xs generalizing marks with
  | nil => rcases marks with _ | ⟨_ | _, ms⟩ <;> rfl
  | cons x xs ih =>
    rcases marks with _ | ⟨m, ms⟩
    · rw [picked_nil_marks, unlink_nil_marks, List.nil_append]
    · obtain ⟨hm, hms⟩ := List.forall_mem_cons.mp h
      rw [hm]
      exact congrArg (x :: ·) (ih hms)

/-- A batch of which no reading is refused on its own has no mark that says no. -/
theorem stored_tally_of_unrefused {rows : List Verdict} (h : ∀ fault, .refused fault ∉ rows)
    (batch : List Reading) : ∀ m ∈ (tally batch rows).stored, m = true := by
  induction batch generalizing rows with
  | nil =>
    intro m hm
    cases hm
  | cons r batch ih =>
    rcases rows with _ | ⟨_ | fault | fault, rows⟩
    · intro m hm
      cases hm
    · have hrest := ih fun fault hmem => h fault (List.mem_cons_of_mem _ hmem)
      exact List.forall_mem_cons.mpr ⟨rfl, hrest⟩
    · exact absurd List.mem_cons_self (h fault)
    · intro m hm
      cases hm

/-- An offer that is answered has the tally of its verdicts, unless there was nothing to offer. -/
theorem tally_of_offer {q : Queue} {batch : List Reading} {v : Verdicts} {t : Tally}
    (h : (q.offer batch v).1 = .ok t) : t = {} ∨ t = tally batch v.rows := by
  -- without a connection nothing is marked, and with one the offer ends in an answer or as its tally
  unfold offer at h
  split at h
  · exact Or.inl (Except.ok.inj h).symm
  · split at h
    · cases h
    · split at h
      · cases h
      · cases h
      · dsimp only at h
        split at h
        · cases h
        · cases h
        · exact Or.inr (Except.ok.inj h).symm

end Queue

namespace Delivery

variable {d : Delivery}

theorem step_answer {batch : List Reading} {cycling : Bool}
    (hstage : d.stage = .offering batch cycling) (v : Verdicts) :
    d.step (.answer v) = d.answered batch cycling v := by
  simp only [step, hstage]

/-- A drain that has copied what waits ends as the drain of the queue. -/
theorem run_drain_offering (d : Delivery) (hidle : d.stage = .idle) (v : Verdicts) :
    ({ d with stage := .offering d.queue.pending false }.run [.answer v, .settle]).queue
      = (d.queue.drain v).2.1 := by
  have hdrain := run_drain hidle v
  have hstart : d.step .drain = { d with stage := .offering d.queue.pending false } := by
    simp only [step, hidle]
  rwa [run, List.foldl_cons, hstart] at hdrain

/-- A cycle whose attempt succeeds copies what waits, connected before or by it. -/
theorem step_cycle_of_ok (hidle : d.stage = .idle) (c : Connection) (wall : Int) :
    d.step (.cycle (.ok c) wall) = { d with
      queue := (d.queue.tryConnect (.ok c) wall).2.1, stage := .offering d.queue.pending true } := by
  rcases hstatus : d.queue.status
  · simp only [step, hidle, beginCycle, Queue.tryConnect, hstatus]
  · simp only [step, hidle, beginCycle, Queue.tryConnect, hstatus]
    rfl

theorem run_cycle_offering (d : Delivery) (hidle : d.stage = .idle) (c : Connection) (v : Verdicts)
    (wall : Int) :
    ({ d with
      queue := (d.queue.tryConnect (.ok c) wall).2.1
      stage := .offering d.queue.pending true }.run [.answer v, .settle]).queue
        = (d.queue.cycle ⟨.ok c, v⟩ wall).2.1 := by
  have hcycle := run_cycle hidle ⟨.ok c, v⟩ wall
  rwa [run, List.foldl_cons, step_cycle_of_ok hidle] at hcycle

/-- No event changes the settings. -/
theorem settings_step (d : Delivery) (e : Event) :
    (d.step e).queue.settings = d.queue.settings := by
  cases e with
  | enqueue r => rfl
  | tryConnect attempt wall => exact d.queue.settings_tryConnect attempt wall
  | close => exact d.queue.settings_close
  | drain =>
    simp only [step]
    split
    · rfl
    · rfl
  | cycle attempt wall =>
    simp only [step]
    split
    · have hconnected := d.queue.settings_tryConnect attempt wall
      unfold beginCycle
      rcases hconnect : d.queue.tryConnect attempt wall with ⟨e | _, q, notices⟩
      · rwa [hconnect] at hconnected
      · rwa [hconnect] at hconnected
    · rfl
  | answer v =>
    simp only [step]
    split
    next batch cycling hstage =>
      have hoffered := (d.queue.sameLink_offer batch v).settings
      unfold Delivery.answered
      rcases hresult : d.queue.offer batch v with ⟨e | t, q, notices⟩
      · rw [hresult] at hoffered
        rcases cycling
        · exact hoffered
        · exact q.settings_close.trans hoffered
      · rwa [hresult] at hoffered
    next => rfl
  | settle =>
    simp only [step]
    split
    · rfl
    · rfl

theorem remaining_sublist_pending (d : Delivery) : d.remaining.Sublist d.queue.pending := by
  unfold remaining
  split
  · exact Queue.unlink_sublist _ _
  · exact List.Sublist.refl _

/-- **What was written and what remains is what was appended,** in the order of appending. -/
def InOrder (d : Delivery) : Prop := d.rows ++ d.remaining = d.enqueued

theorem InOrder.reconnect (h : d.InOrder) {q : Queue} (hsame : d.queue.SameReadings q) :
    { d with queue := q }.InOrder := by
  unfold InOrder remaining at *
  simpa only [hsame.1] using h

/-- A batch of which no reading was refused leaves the queue from its front. -/
theorem InOrder.answered (h : d.InOrder) (hfits : d.Fits) {batch : List Reading} {cycling : Bool}
    (hstage : d.stage = .offering batch cycling) {v : Verdicts}
    (hunrefused : ∀ fault, .refused fault ∉ v.rows) : (d.answered batch cycling v).InOrder := by
  obtain ⟨⟨hpending, -⟩, hoffer⟩ := d.queue.offer_spec batch v
  simp only [Fits, hstage] at hfits
  simp only [InOrder, remaining, hstage] at h
  unfold Delivery.answered
  rcases hresult : d.queue.offer batch v with ⟨e | t, q, notices⟩
  · rw [hresult] at hpending hoffer
    -- nothing was written, and all of the batch still waits in its place
    have hnone : d.queue.writtenBy batch v = [] := hoffer
    have hkept : (if cycling then q.close.1 else q).pending = d.queue.pending := by
      split
      · exact q.sameReadings_close.1.trans hpending
      · exact hpending
    simp only [InOrder, remaining, hnone, List.append_nil, hkept]
    exact h
  · rw [hresult] at hpending hoffer
    obtain ⟨hlen, hpicked⟩ := hoffer
    have hq : q.pending = d.queue.pending := hpending
    have hmarks : ∀ m ∈ t.stored, m = true := by
      rcases Queue.tally_of_offer (congrArg Prod.fst hresult) with rfl | rfl
      · intro m hm
        cases hm
      · exact Queue.stored_tally_of_unrefused hunrefused batch
    -- the batch stands in front of the queue, so its marks take from the front of that
    obtain ⟨more, hmore⟩ := hfits
    have hfront : Queue.picked t.stored d.queue.pending = d.queue.writtenBy batch v := by
      rw [← hmore, Queue.picked_append hlen, hpicked]
    -- and with nobody refused they leave only what stood behind
    have hsplit := Queue.picked_append_unlink hmarks d.queue.pending
    simp only [InOrder, remaining, hq]
    rw [← hfront, List.append_assoc, hsplit]
    exact h

/-- **One event more.** -/
theorem InOrder.step (h : d.InOrder) (hsound : d.Sound) {e : Event}
    (hunrefused : ∀ v, e = .answer v → ∀ fault, .refused fault ∉ v.rows) : (d.step e).InOrder := by
  cases e with
  | enqueue r =>
    have hremaining := remaining_enqueue hsound.fits r
    unfold InOrder at *
    rw [hremaining, ← List.append_assoc]
    exact congrArg (· ++ [r]) h
  | tryConnect attempt wall => exact h.reconnect (d.queue.sameReadings_tryConnect attempt wall)
  | close => exact h.reconnect d.queue.sameReadings_close
  | drain =>
    simp only [Delivery.step]
    split
    next hidle =>
      simp only [InOrder, remaining, hidle] at h
      exact h
    next => exact h
  | cycle attempt wall =>
    simp only [Delivery.step]
    split
    next hidle =>
      have hconnected := h.reconnect (d.queue.sameReadings_tryConnect attempt wall)
      unfold Delivery.beginCycle
      rcases hconnect : d.queue.tryConnect attempt wall with ⟨e | _, q, notices⟩
      · rw [hconnect] at hconnected
        exact hconnected
      · rw [hconnect] at hconnected
        simp only [InOrder, remaining, hidle] at hconnected
        exact hconnected
    next => exact h
  | answer v =>
    simp only [Delivery.step]
    split
    next hstage => exact h.answered hsound.fits hstage (hunrefused v rfl)
    next => exact h
  | settle =>
    simp only [Delivery.step]
    split
    next hstage =>
      simp only [InOrder, remaining, hstage] at h
      exact h
    next => exact h

end Delivery

/-! ## Archives -/

/-- A queue at work, and the disk that its database is on. -/
structure Archive where
  delivery : Delivery
  disk : Disk

/-- What can happen to an archive. Opening the database may meet a trouble that the disk does not
show. -/
inductive Access where
  | enqueue (r : Reading)
  | tryConnect (trouble : Option Fault) (wall : Int)
  | close
  | drain
  | cycle (trouble : Option Fault) (wall : Int)
  | answer (verdicts : Verdicts)
  | settle
  /-- Something changes on the disk, but not the file of the database. -/
  | elsewhere (disk : Disk)

namespace Archive

/-- A new queue beside a disk. -/
def new (settings : QueueSettings) (disk : Disk) : Archive := ⟨Delivery.new settings, disk⟩

/-- The queue of an archive. -/
abbrev queue (a : Archive) : Queue := a.delivery.queue

/-- The rows that the database holds. -/
def rows (a : Archive) : List Row := (a.queue.database a.disk).rows

/-- The verdicts of a batch come in, and the database has what was written. -/
def answered (a : Archive) (batch : List Reading) (v : Verdicts) : Archive :=
  match a.queue.connection with
  | some c =>
    let (q, disk) := a.queue.gained a.disk c (v.written batch)
    ⟨{ a.delivery with queue := q }.step (.answer v), disk⟩
  | none => { a with delivery := a.delivery.step (.answer v) }

/-- **The archive after one access.** -/
def step (a : Archive) : Access → Archive
  | .enqueue r => { a with delivery := a.delivery.step (.enqueue r) }
  | .tryConnect trouble wall =>
    let (attempt, disk) := a.queue.tried a.disk trouble
    ⟨a.delivery.step (.tryConnect attempt wall), disk⟩
  | .close => { a with delivery := a.delivery.step .close }
  | .drain => { a with delivery := a.delivery.step .drain }
  | .cycle trouble wall =>
    match a.delivery.stage with
    | .idle =>
      let (attempt, disk) := a.queue.tried a.disk trouble
      ⟨a.delivery.step (.cycle attempt wall), disk⟩
    | _ => a
  | .answer v =>
    match a.delivery.stage with
    | .offering batch _ => a.answered batch v
    | _ => a
  | .settle => { a with delivery := a.delivery.step .settle }
  | .elsewhere disk =>
    if disk.node? (Disk.partsOf a.queue.settings.path)
        = a.disk.node? (Disk.partsOf a.queue.settings.path) then { a with disk }
    else a

/-- **The archive after some accesses,** the first one first. -/
def run (a : Archive) (accesses : List Access) : Archive := accesses.foldl step a

/-- **No access deletes a row.** -/
def DeletesNothing (a : Archive) : List Access → Prop
  | [] => True
  | x :: accesses => a.rows ⊆ (a.step x).rows ∧ (a.step x).DeletesNothing accesses

variable {a : Archive}

/-! ## The database keeps what was written -/

/-- The database holds what was written. -/
def Kept (a : Archive) : Prop := a.queue.Keeps a.disk a.delivery.rows

/-- **A batch that is answered leaves the database with what was written,** whether it commits or
not. A cycle that fails closes its database, which loses what is in no file, so that case needs the
premise. -/
theorem Kept.answered (h : a.Kept) {batch : List Reading} {cycling : Bool}
    (hstage : a.delivery.stage = .offering batch cycling) (v : Verdicts)
    (hkept : Disk.isFileless a.queue.settings.path = true → a.rows ⊆ (a.answered batch v).rows) :
    (a.answered batch v).Kept := by
  have hrows : a.rows = archived a.delivery.rows := h.holds.rows_eq
  rw [hrows] at hkept
  -- the verdicts meet a queue whose database has what was written, connected or not
  obtain ⟨q, disk, hanswered, hsettings, hkeeps⟩ : ∃ q disk,
      a.answered batch v = ⟨{ a.delivery with queue := q }.answered batch cycling v, disk⟩
        ∧ q.settings = a.queue.settings
        ∧ q.Keeps disk (a.delivery.rows ++ q.writtenBy batch v) := by
    unfold Archive.answered
    rcases hconn : a.queue.connection with _ | c
    · refine ⟨a.queue, a.disk, ?_, rfl, ?_⟩
      · exact congrArg (Archive.mk · a.disk) (Delivery.step_answer hstage v)
      · have hnone : a.queue.writtenBy batch v = [] := by rw [Queue.writtenBy, hconn]
        rw [hnone, List.append_nil]
        exact h
    · refine ⟨(a.queue.gained a.disk c (v.written batch)).1,
        (a.queue.gained a.disk c (v.written batch)).2, ?_, rfl, ?_⟩
      · have hstill : ({ a.delivery with
            queue := (a.queue.gained a.disk c (v.written batch)).1 } : Delivery).stage
              = .offering batch cycling := hstage
        exact congrArg (Archive.mk · _) (Delivery.step_answer hstill v)
      · have hgained := Queue.Keeps.gained h hconn (v.written batch)
        have hsome : (a.queue.gained a.disk c (v.written batch)).1.connection.isSome = true := by
          simp only [Queue.gained, Queue.refresh, Option.isSome_map, hconn, Option.isSome_some]
        obtain ⟨c', hc'⟩ := Option.isSome_iff_exists.mp hsome
        rw [Queue.writtenBy, hc']
        exact hgained
  obtain ⟨-, hoffer⟩ := q.offer_spec batch v
  have hoffered := hkeeps.offer batch v
  have hsame := (q.sameLink_offer batch v).settings.trans hsettings
  rw [hanswered] at hkept ⊢
  unfold Kept
  unfold Delivery.answered rows at *
  rcases hresult : q.offer batch v with ⟨e | t, q', notices⟩
  · rw [hresult] at hoffer hoffered
    have hnone : q.writtenBy batch v = [] := hoffer
    simp only [hresult, hnone, List.append_nil] at hkept hoffered hsame ⊢
    rcases cycling
    · exact hoffered
    · -- a cycle whose transaction fails closes the database
      rw [← hsame] at hkept
      exact hoffered.close hkept
  · rw [hresult] at hoffered
    exact hoffered

/-- **One access more** keeps it, as long as a path that names no file loses no row by it. -/
theorem Kept.step (h : a.Kept) (x : Access)
    (hkept : Disk.isFileless a.queue.settings.path = true → a.rows ⊆ (a.step x).rows) :
    (a.step x).Kept := by
  have hrows : a.rows = archived a.delivery.rows := h.holds.rows_eq
  cases x with
  | enqueue r => exact Queue.Keeps.congr h rfl rfl rfl
  | tryConnect trouble wall => exact Queue.Keeps.connect h trouble wall
  | close =>
    rw [hrows] at hkept
    exact Queue.Keeps.close h hkept
  | drain =>
    -- a drain copies what waits, and touches neither queue nor disk
    unfold Kept Archive.step Delivery.step
    rcases hstage : a.delivery.stage with _ | ⟨batch, cycling⟩ | t
    · exact h
    · exact h
    · exact h
  | cycle trouble wall =>
    have hconnected := Queue.Keeps.connect h trouble wall
    rcases hstage : a.delivery.stage with _ | ⟨batch, cycling⟩ | t
    · simp only [Kept, Archive.step, hstage, Delivery.step, Delivery.beginCycle]
      rcases hconnect : a.queue.tryConnect (a.queue.tried a.disk trouble).1 wall
        with ⟨e | _, q, notices⟩
      · rw [hconnect] at hconnected
        exact hconnected
      · rw [hconnect] at hconnected
        exact hconnected
    · simpa only [Archive.step, hstage] using h
    · simpa only [Archive.step, hstage] using h
  | answer v =>
    rcases hstage : a.delivery.stage with _ | ⟨batch, cycling⟩ | t
    · simpa only [Archive.step, hstage] using h
    · simp only [Archive.step, hstage] at hkept ⊢
      exact h.answered hstage v hkept
    · simpa only [Archive.step, hstage] using h
  | settle =>
    unfold Kept Archive.step Delivery.step
    rcases hstage : a.delivery.stage with _ | ⟨batch, cycling⟩ | t
    · exact h
    · exact h
    · exact Queue.Keeps.congr h rfl rfl rfl
  | elsewhere disk =>
    simp only [Archive.step]
    split
    next hsame => exact Queue.Keeps.elsewhere h hsame
    next => exact h

/-- **So does every run that deletes no row.** -/
theorem Kept.run (h : a.Kept) {accesses : List Access} (hkept : a.DeletesNothing accesses) :
    (a.run accesses).Kept := by
  induction accesses generalizing a with
  | nil => exact h
  | cons x accesses ih => exact ih (h.step x fun _ => hkept.1) hkept.2

/-- A new queue beside a database without readings has kept what was written, which is nothing. -/
theorem kept_new {settings : QueueSettings} {disk : Disk}
    (hnew : (disk.connected settings.path {}).Holds []) : (new settings disk).Kept := by
  refine ⟨⟨fun h => ?_, fun h => ?_⟩, hnew, fun h => ?_, fun c h => ?_, fun c h => ?_, fun _ => hnew⟩
  · cases h
  · cases h
  · cases h
  · cases h
  · cases h

/-! ## What an access does to the queue -/

/-- **An access is an event of the queue,** of one whose connection may have been refreshed. -/
theorem delivery_step (a : Archive) (x : Access) :
    (a.step x).delivery = a.delivery
      ∨ ∃ q e, a.queue.SameReadings q ∧ q.settings = a.queue.settings
        ∧ (a.step x).delivery = { a.delivery with queue := q }.step e
        ∧ ∀ v, e = .answer v → x = .answer v := by
  cases x with
  | enqueue r => exact Or.inr ⟨a.queue, .enqueue r, ⟨rfl, rfl⟩, rfl, rfl, by rintro v ⟨⟩⟩
  | tryConnect trouble wall =>
    exact Or.inr ⟨a.queue, .tryConnect (a.queue.tried a.disk trouble).1 wall, ⟨rfl, rfl⟩, rfl, rfl,
      by rintro v ⟨⟩⟩
  | close => exact Or.inr ⟨a.queue, .close, ⟨rfl, rfl⟩, rfl, rfl, by rintro v ⟨⟩⟩
  | drain => exact Or.inr ⟨a.queue, .drain, ⟨rfl, rfl⟩, rfl, rfl, by rintro v ⟨⟩⟩
  | cycle trouble wall =>
    simp only [step]
    split
    · exact Or.inr ⟨a.queue, .cycle (a.queue.tried a.disk trouble).1 wall, ⟨rfl, rfl⟩, rfl, rfl,
        by rintro v ⟨⟩⟩
    · exact Or.inl rfl
  | answer v =>
    simp only [step, Archive.answered]
    split
    next batch cycling hstage =>
      refine Or.inr ?_
      split
      next c hconn =>
        exact ⟨(a.queue.gained a.disk c (v.written batch)).1, .answer v, ⟨rfl, rfl⟩, rfl, rfl,
          by rintro v ⟨⟩; rfl⟩
      next => exact ⟨a.queue, .answer v, ⟨rfl, rfl⟩, rfl, rfl, by rintro v ⟨⟩; rfl⟩
    next => exact Or.inl rfl
  | settle => exact Or.inr ⟨a.queue, .settle, ⟨rfl, rfl⟩, rfl, rfl, by rintro v ⟨⟩⟩
  | elsewhere disk =>
    simp only [step]
    split
    · exact Or.inl rfl
    · exact Or.inl rfl

/-- **A run of accesses is as sound as one of events.** -/
theorem sound_run (h : a.delivery.Sound) (accesses : List Access) :
    (a.run accesses).delivery.Sound := by
  -- the event may meet a queue whose connection was refreshed, with the same readings in it
  induction accesses generalizing a with
  | nil => exact h
  | cons x accesses ih =>
    refine ih ?_
    rcases a.delivery_step x with heq | ⟨q, e, hsame, -, heq, -⟩
    · rw [heq]
      exact h
    · rw [heq]
      exact (h.reconnect hsame).step e

/-- **A run in which no insert is refused on its own delivers in order.** -/
theorem inOrder_run (h : a.delivery.InOrder) (hsound : a.delivery.Sound) {accesses : List Access}
    (hunrefused : ∀ v, .answer v ∈ accesses → ∀ fault, .refused fault ∉ v.rows) :
    (a.run accesses).delivery.InOrder := by
  induction accesses generalizing a with
  | nil => exact h
  | cons x accesses ih =>
    have hlater : ∀ v, .answer v ∈ accesses → ∀ fault, .refused fault ∉ v.rows :=
      fun v hv => hunrefused v (List.mem_cons_of_mem x hv)
    refine ih ?_ (sound_run hsound [x]) hlater
    rcases a.delivery_step x with heq | ⟨q, e, hsame, -, heq, hanswer⟩
    · rw [heq]
      exact h
    · rw [heq]
      refine (h.reconnect hsame).step (hsound.reconnect hsame) fun v hv => ?_
      exact hunrefused v (by rw [hanswer v hv]; exact List.mem_cons_self)

/-- **In a file no run deletes a row.** -/
theorem deletesNothing_of_file (h : a.Kept)
    (hfile : Disk.isFileless a.queue.settings.path = false) (accesses : List Access) :
    a.DeletesNothing accesses := by
  induction accesses generalizing a with
  | nil => exact trivial
  | cons x accesses ih =>
    have hnext := h.step x fun hfileless => absurd hfileless (Bool.eq_false_iff.mp hfile)
    -- the rows are those of what was written, and what was written stays in front
    have hgrows : a.delivery.rows <+: (a.step x).delivery.rows
        ∧ (a.step x).queue.settings = a.queue.settings := by
      rcases a.delivery_step x with heq | ⟨q, e, -, hsettings, heq, -⟩
      · rw [queue, heq]
        exact ⟨List.prefix_refl _, rfl⟩
      · rw [queue, heq]
        have hrows := Delivery.rows_step { a.delivery with queue := q } e
        have hstep := Delivery.settings_step { a.delivery with queue := q } e
        exact ⟨hrows, hstep.trans hsettings⟩
    refine ⟨?_, ih hnext (by rw [hgrows.2]; exact hfile)⟩
    obtain ⟨more, hmore⟩ := hgrows.1
    have hbefore : a.rows = archived a.delivery.rows := h.holds.rows_eq
    have hafter : (a.step x).rows = archived (a.step x).delivery.rows := hnext.holds.rows_eq
    rw [hbefore, hafter, ← hmore, archived, archived, List.zipIdx_append, List.map_append]
    exact List.subset_append_left _ _

/-! ## Drains and cycles on a disk -/

/-- A database whose table takes every row gives the verdicts that its own contents bear out. -/
theorem gained_transact (q : Queue) (d : Disk) (c : Connection)
    (hall : ∀ t, (d.connected q.settings.path c).table = some t → t.TakesAll)
    (batch : List Reading) :
    let (verdicts, db) := (d.connected q.settings.path c).transact c.prepared batch
    let (after, disk) := d.store q.settings.path c db
    q.gained d c (verdicts.written batch) = (q.refresh after, disk) := by
  have hdatabase : ((d.connected q.settings.path c).transact c.prepared batch).2
      = (d.connected q.settings.path c).onTable fun t =>
        (((d.connected q.settings.path c).transact c.prepared batch).1.written batch).foldl
          ReadingTable.addReading t := by
    rcases hdb : d.connected q.settings.path c with ⟨_ | t⟩
    · rcases hprepared : c.prepared
      · rfl
      · rfl
    · rw [hdb] at hall
      have ht : (⟨some t⟩ : Database).table = some t := rfl
      have htable := Database.table_transact ht (hall t rfl) c.prepared batch
      exact congrArg Database.mk htable
  simp only [Queue.gained, ← hdatabase]

/-- Without a connection the disk is not touched by the end of a drain. -/
theorem run_answer_settle_of_none {batch : List Reading} {cycling : Bool}
    (hstage : a.delivery.stage = .offering batch cycling) (hconn : a.queue.connection = none)
    (v : Verdicts) :
    a.run [.answer v, .settle] = ⟨a.delivery.run [.answer v, .settle], a.disk⟩ := by
  have hanswer : a.step (.answer v) = ⟨a.delivery.step (.answer v), a.disk⟩ := by
    simp only [step, hstage, answered, hconn]
  show (a.step (.answer v)).step .settle = _
  rw [hanswer]
  rfl

/-- The end of a drain that nothing comes between, with verdicts of the database itself. -/
theorem run_answer_settle_of_some {batch : List Reading} {cycling : Bool}
    (hstage : a.delivery.stage = .offering batch cycling) {c : Connection}
    (hconn : a.queue.connection = some c)
    (hall : ∀ t, (a.disk.connected a.queue.settings.path c).table = some t → t.TakesAll) :
    let (v, db) := (a.disk.connected a.queue.settings.path c).transact c.prepared batch
    let (after, disk) := a.disk.store a.queue.settings.path c db
    a.run [.answer v, .settle]
      = ⟨{ a.delivery with queue := a.queue.refresh after }.run [.answer v, .settle], disk⟩ := by
  have hgained := gained_transact a.queue a.disk c hall batch
  dsimp only at hgained ⊢
  generalize ((a.disk.connected a.queue.settings.path c).transact c.prepared batch).1 = v at *
  have hanswer : a.step (.answer v)
      = ⟨{ a.delivery with queue := (a.queue.gained a.disk c (v.written batch)).1 }.step (.answer v),
          (a.queue.gained a.disk c (v.written batch)).2⟩ := by
    simp only [step, hstage, answered, hconn]
  show (a.step (.answer v)).step .settle = _
  rw [hanswer, hgained]
  rfl

/-- **A drain that nothing comes between is the drain on the disk,** with the verdicts of the database
itself. -/
theorem run_drainOn (hidle : a.delivery.stage = .idle)
    (hall : ∀ t, (a.queue.database a.disk).table = some t → t.TakesAll) :
    ∃ v, (a.run [.drain, .answer v, .settle]).queue = (a.queue.drainOn a.disk).2.1
      ∧ (a.run [.drain, .answer v, .settle]).disk = (a.queue.drainOn a.disk).2.2.1 := by
  obtain ⟨d, disk⟩ := a
  have hidle : d.stage = .idle := hidle
  have hstart : ∀ v, (Archive.mk d disk).run [.drain, .answer v, .settle]
      = (Archive.mk { d with stage := .offering d.queue.pending false } disk).run
        [.answer v, .settle] := by
    intro v
    show ((Archive.mk d disk).step .drain).run [.answer v, .settle] = _
    simp only [step, Delivery.step, hidle]
  simp only [queue] at hall ⊢
  rcases hconn : d.queue.connection with _ | c
  · refine ⟨{}, ?_⟩
    rw [hstart, run_answer_settle_of_none rfl hconn, Queue.drainOn, hconn]
    exact ⟨Delivery.run_drain_offering d hidle {}, rfl⟩
  · -- the answer meets the queue with the connection that the transaction has refreshed
    rw [Queue.database, hconn, Option.getD_some] at hall
    have hstage : (Archive.mk { d with stage := .offering d.queue.pending false } disk).delivery.stage
        = .offering d.queue.pending false := rfl
    have hend := run_answer_settle_of_some hstage hconn hall
    dsimp only [queue] at hend
    refine ⟨((disk.connected d.queue.settings.path c).transact c.prepared d.queue.pending).1, ?_⟩
    rw [hstart, hend, Queue.drainOn, hconn]
    exact ⟨Delivery.run_drain_offering { d with queue := d.queue.refresh _ } hidle _, rfl⟩

/-- With no drain under way there is nothing to answer or to take out. -/
theorem run_answer_settle_of_idle (hidle : a.delivery.stage = .idle) (v : Verdicts) :
    a.run [.answer v, .settle] = a := by
  have hanswer : a.step (.answer v) = a := by simp only [step, hidle]
  have hsettle : a.step .settle = a := by simp only [step, Delivery.step, hidle]
  show (a.step (.answer v)).step .settle = a
  rw [hanswer, hsettle]

/-- What is stored is stored through the connection that there is. -/
theorem refresh_tryConnect {q : Queue} (hagrees : q.Agrees) (d : Disk) (path : String)
    (c : Connection) (db : Database) (wall : Int) :
    ((q.refresh (d.store path c db).1).tryConnect (.ok (d.store path c db).1) wall).2.1
      = (q.tryConnect (.ok c) wall).2.1.refresh (d.store path c db).1 := by
  -- a queue that is connected makes no attempt, so only the other case meets the new connection
  rcases hstatus : q.status
  · have hstill : (q.refresh (d.store path c db).1).status = .connected := hstatus
    simp only [Queue.tryConnect, hstatus, hstill]
  · have hstill : (q.refresh (d.store path c db).1).status = .disconnected := hstatus
    -- a queue that is not connected has nothing to refresh
    have hnone : q.refresh (d.store path c db).1 = q := by
      rw [Queue.refresh, hagrees.connection_eq_none hstatus, Option.map_none]
      rw [← hagrees.connection_eq_none hstatus]
    rw [hnone, Queue.tryConnect_of_ok hstatus, Queue.tryConnect_of_ok hstatus]
    unfold Disk.store
    split
    · rfl
    · rfl

/-- **A cycle that nothing comes between is the cycle on the disk.** -/
theorem run_cycleOn (hidle : a.delivery.stage = .idle) (hagrees : a.queue.Agrees) (wall : Int)
    (hall : ∀ c disk, a.queue.attempt a.disk = (.ok c, disk) → ∀ t,
      (disk.connected a.queue.settings.path c).table = some t → t.TakesAll) :
    ∃ v, (a.run [.cycle none wall, .answer v, .settle]).queue = (a.queue.cycleOn a.disk wall).2.1
      ∧ (a.run [.cycle none wall, .answer v, .settle]).disk
        = (a.queue.cycleOn a.disk wall).2.2.1 := by
  obtain ⟨d, disk⟩ := a
  have hidle : d.stage = .idle := hidle
  simp only [queue] at hall hagrees ⊢
  rcases hattempt : d.queue.attempt disk with ⟨attempt, disk'⟩
  have hstart : ∀ v, (Archive.mk d disk).run [.cycle none wall, .answer v, .settle]
      = (Archive.mk (d.step (.cycle attempt wall)) disk').run [.answer v, .settle] := by
    intro v
    show ((Archive.mk d disk).step (.cycle none wall)).run [.answer v, .settle] = _
    simp only [step, hidle, Queue.tried, hattempt]
  rcases attempt with fault | c
  · -- nothing is offered, so the answer finds nothing under way
    have hstatus : d.queue.status = .disconnected := by
      rcases hstatus : d.queue.status
      · obtain ⟨c, hconn⟩ := Option.isSome_iff_exists.mp (hagrees.mpr hstatus)
        simp only [Queue.attempt, hstatus, hconn] at hattempt
        cases hattempt
      · rfl
    obtain ⟨notices, htry⟩ := Queue.tryConnect_of_error hstatus fault wall
    have hfailed : d.step (.cycle (.error fault) wall) = { d with queue := d.queue.failed wall } := by
      simp only [Delivery.step, hidle, Delivery.beginCycle, htry]
    have hcycle : (d.queue.cycle ⟨.error fault, {}⟩ wall).2.1 = d.queue.failed wall := by
      simp only [Queue.cycle, hstatus, htry]
      split
      · rfl
      · rfl
    refine ⟨{}, ?_⟩
    rw [hstart, hfailed, run_answer_settle_of_idle hidle, Queue.cycleOn, hattempt]
    exact ⟨hcycle.symm, rfl⟩
  · -- connected before or by this cycle, the queue has the connection that the disk gave
    have hconn : (d.queue.tryConnect (.ok c) wall).2.1.connection = some c := by
      rcases hstatus : d.queue.status
      · obtain ⟨c', hconn⟩ := Option.isSome_iff_exists.mp (hagrees.mpr hstatus)
        simp only [Queue.attempt, hstatus, hconn] at hattempt
        cases hattempt
        simpa only [Queue.tryConnect, hstatus] using hconn
      · rw [Queue.tryConnect_of_ok hstatus]
        rfl
    have hsettings := d.queue.settings_tryConnect (.ok c) wall
    have htakes := hall c disk' hattempt
    rw [← hsettings] at htakes
    have hstage : (Archive.mk { d with
        queue := (d.queue.tryConnect (.ok c) wall).2.1
        stage := .offering d.queue.pending true } disk').delivery.stage
          = .offering d.queue.pending true := rfl
    have hend := run_answer_settle_of_some hstage hconn htakes
    dsimp only [queue] at hend
    rw [hsettings] at hend
    refine ⟨((disk'.connected d.queue.settings.path c).transact c.prepared d.queue.pending).1, ?_⟩
    rw [hstart, Delivery.step_cycle_of_ok hidle, hend, Queue.cycleOn, hattempt,
      ← refresh_tryConnect hagrees]
    refine ⟨?_, rfl⟩
    exact Delivery.run_cycle_offering { d with queue := d.queue.refresh _ } hidle _ _ wall

/-! ## What can be read -/

/-- What can be read of a database that holds what was written. -/
theorem Kept.readAll (h : a.Kept) (hstatus : a.queue.status = .connected)
    (hwords : ∀ r ∈ a.delivery.rows, r.temperature.bits < 2 ^ 32) :
    ((∃ readings, a.queue.readAll a.disk = .ok readings)
        ↔ ∀ r ∈ a.delivery.rows, r.temperature.isNaN = false)
      ∧ ∀ readings, a.queue.readAll a.disk = .ok readings
        → OldestFirst readings a.delivery.rows := by
  obtain ⟨c, hconn⟩ := Option.isSome_iff_exists.mp (h.agrees.mpr hstatus)
  have hdatabase : a.queue.database a.disk = a.disk.connected a.queue.settings.path c := by
    rw [Queue.database, hconn, Option.getD_some]
  have hholds := h.holds
  have hmade := h.made (by rw [hconn]; rfl)
  rw [hdatabase] at hholds hmade
  obtain ⟨t, ht⟩ := Option.isSome_iff_exists.mp hmade
  unfold Database.Holds at hholds
  simp only [ht] at hholds
  obtain ⟨hgood, hbad⟩ := readAll_archived ht hholds.1 hholds.2 hwords
  by_cases hnumbers : ∀ r ∈ a.delivery.rows, r.temperature.isNaN = false
  · obtain ⟨answer, hanswer, horder⟩ := hgood hnumbers
    have hread : a.queue.readAll a.disk = .ok answer := by
      simp only [Queue.readAll, hconn, hanswer]
    refine ⟨⟨fun _ => hnumbers, fun _ => ⟨answer, hread⟩⟩, fun readings hreadings => ?_⟩
    rw [hread] at hreadings
    cases hreadings
    exact horder
  · -- one row that is no reading, wherever it stands, and there is no answer at all
    have hnan : ∃ r ∈ a.delivery.rows, r.temperature.isNaN = true := by
      by_contra hnone
      exact hnumbers fun r hr => Bool.eq_false_iff.mpr fun hr' => hnone ⟨r, hr, hr'⟩
    obtain ⟨fault, hfault⟩ := hbad hnan
    have hread : a.queue.readAll a.disk = .error (.database fault) := by
      simp only [Queue.readAll, hconn, hfault]
    refine ⟨⟨?_, fun h => absurd h hnumbers⟩, ?_⟩
    · rintro ⟨readings, hreadings⟩
      rw [hread] at hreadings
      cases hreadings
    · intro readings hreadings
      rw [hread] at hreadings
      cases hreadings

/-- **What is read is what was delivered, the oldest first.** For a queue that starts beside a disk
where its path holds no readings yet, after any accesses that delete no row, with temperatures of 32
bits. Without a connection nothing can be read. With one, reading succeeds exactly if no reading that
was delivered has a temperature that is no number, and gives the readings that were delivered, each as
it comes back, by time stamp, and of one time stamp in the order of insertion. When no drain is under
way as many were delivered as were counted, and they are those that were appended and no longer wait.
If no insert was ever refused on its own and nothing waits, they are all that were appended, in that
order. -/
theorem reads_what_was_delivered (settings : QueueSettings) (disk : Disk)
    (hnew : (disk.connected settings.path {}).Holds []) (accesses : List Access)
    (hkept : (new settings disk).DeletesNothing accesses)
    (hbits : ∀ r ∈ ((new settings disk).run accesses).delivery.enqueued,
      r.temperature.bits < 2 ^ 32) :
    let a := (new settings disk).run accesses
    let stored := a.delivery.rows
    (a.queue.status = .disconnected → a.queue.readAll a.disk = .error .notConnected)
      ∧ (a.queue.status = .connected →
        ((∃ readings, a.queue.readAll a.disk = .ok readings)
            ↔ ∀ r ∈ stored, r.temperature.isNaN = false)
          ∧ ∀ readings, a.queue.readAll a.disk = .ok readings → OldestFirst readings stored)
      ∧ (a.delivery.stage = .idle →
        a.queue.delivered = stored.length ∧ (a.queue.pending ++ stored).Perm a.delivery.enqueued)
      ∧ ((∀ v, .answer v ∈ accesses → ∀ fault, .refused fault ∉ v.rows) →
        a.queue.pending = [] → stored = a.delivery.enqueued) := by
  intro a stored
  have hholds : a.Kept := (kept_new hnew).run hkept
  have hsound : a.delivery.Sound := sound_run (Delivery.sound_new settings) accesses
  obtain ⟨waiting, written, hplaces⟩ := hsound.places
  refine ⟨fun hstatus => ?_, fun hstatus => ?_, fun hidle => ⟨?_, ?_⟩, fun hunrefused hnone => ?_⟩
  · have hconn := hholds.agrees.connection_eq_none hstatus
    simp only [Queue.readAll, hconn]
  · -- what was delivered was appended, so its temperatures have 32 bits as well
    refine hholds.readAll hstatus fun r hr => hbits r ?_
    exact hplaces.perm.mem_iff.mp (List.mem_append_right _ hr)
  · have htotal := hsound.total
    simpa only [Delivery.total, hidle] using htotal
  · have hperm := hplaces.perm
    simpa only [Delivery.remaining, hidle] using hperm
  · have hfresh : (new settings disk).delivery.InOrder := rfl
    have horder : a.delivery.InOrder :=
      inOrder_run hfresh (Delivery.sound_new settings) hunrefused
    have hremaining : a.delivery.remaining = [] := by
      have hsub := a.delivery.remaining_sublist_pending
      rw [show a.delivery.queue.pending = [] from hnone] at hsub
      exact List.sublist_nil.mp hsub
    rwa [Delivery.InOrder, hremaining, List.append_nil] at horder

/-- The first of two readings is stored, and the other one, which is older, is refused. A transaction
with it and a third one of the same second does not commit; the next one stores both. The zero that
was negative comes back without its sign. -/
theorem reads_what_was_delivered_after_refusal :
    let late : Reading := ⟨30, ⟨1⟩, Binary.ofInt 20, false⟩
    let refused : Reading := ⟨10, ⟨2⟩, Binary.withSign true 0, true⟩
    let third : Reading := ⟨10, ⟨1⟩, Binary.ofInt 21, true⟩
    let accesses : List Access := [.tryConnect none 0, .enqueue late, .enqueue refused, .drain,
      .answer { rows := [.done, .refused .noTable] }, .settle, .enqueue third, .drain,
      .answer { rows := [.done, .done], committing := some .noTable },
      .drain, .answer { rows := [.done, .done] }, .settle]
    let a := (new ⟨":memory:", 3, 10, 10⟩ ⟨[]⟩).run accesses
    a.delivery.rows = [late, refused, third] ∧ a.queue.pending = []
      ∧ ∃ readings, a.queue.readAll a.disk = .ok readings ∧ OldestFirst readings a.delivery.rows := by
  intro late refused third accesses a
  have hnew : ((⟨[]⟩ : Disk).connected ":memory:" {}).Holds [] := by
    rw [Disk.connected_of_nil]
    exact rfl
  have hopened : (new ⟨":memory:", 3, 10, 10⟩ ⟨[]⟩).rows
      ⊆ ((new ⟨":memory:", 3, 10, 10⟩ ⟨[]⟩).step (.tryConnect none 0)).rows := by
    rw [show (new ⟨":memory:", 3, 10, 10⟩ ⟨[]⟩).rows = [] from hnew.rows_eq]
    exact List.nil_subset _
  have hkept : (new ⟨":memory:", 3, 10, 10⟩ ⟨[]⟩).DeletesNothing accesses :=
    ⟨hopened, by decide, by decide, by decide, by decide, by decide, by decide, by decide, by decide,
      by decide, by decide, by decide, trivial⟩
  have hbits : ∀ r ∈ a.delivery.enqueued, r.temperature.bits < 2 ^ 32 := by decide
  obtain ⟨-, hconnected, -, -⟩ := reads_what_was_delivered _ _ hnew accesses hkept hbits
  obtain ⟨hsucceeds, horder⟩ := hconnected (by decide)
  obtain ⟨readings, hread⟩ := hsucceeds.mpr (by decide)
  exact ⟨by decide, by decide, readings, hread, horder readings hread⟩

end Archive

end SensorGateway.Storage
