import SensorGateway.Storage.Queue

/-!
What a batch leaves in the queue and in the database.

A drain keeps one mark for each reading of its batch and hands the marks to a queue that may have
grown since. The marks split any list that begins with the batch into the readings that are picked
and those that are left (`unlink_append_picked`), and both parts can be found by position as well as
by value (`unlink_map`, `picked_map`), which is how a reading is followed that equals another.

On the other side stands what the database promises of a transaction, `Verdicts.written`, which is
said without the queue. `offer_spec` brings the two together: whichever way an offer ends, the
readings that its marks pick are those that the database has kept.
-/

set_option autoImplicit false

namespace SensorGateway.Storage

/-! ## Marks -/

namespace Queue

/-- The elements at the front of a list that are marked. -/
def picked {α : Type} : List Bool → List α → List α
  | true :: ms, x :: xs => x :: picked ms xs
  | false :: ms, _ :: xs => picked ms xs
  | _, _ => []

section Marks

variable {α β : Type}

@[simp] theorem unlink_nil_marks (xs : List α) : unlink [] xs = xs := by
  unfold unlink
  rfl

@[simp] theorem picked_nil_marks (xs : List α) : picked [] xs = [] := by
  unfold picked
  rfl

/-- What is left stands in the old order. -/
theorem unlink_sublist (marks : List Bool) (xs : List α) : (unlink marks xs).Sublist xs := by
  induction xs generalizing marks with
  | nil => rcases marks with _ | ⟨_ | _, ms⟩ <;> exact List.Sublist.refl _
  | cons x xs ih =>
    rcases marks with _ | ⟨m, ms⟩
    · exact List.Sublist.refl (x :: xs)
    · rcases m
      · exact (ih ms).cons_cons x
      · exact (ih ms).cons x

/-- **Marks split a list:** what is left and what is picked is what there was. -/
theorem unlink_append_picked (marks : List Bool) (xs : List α) :
    (unlink marks xs ++ picked marks xs).Perm xs := by
  induction xs generalizing marks with
  | nil => rcases marks with _ | ⟨_ | _, ms⟩ <;> exact List.Perm.refl _
  | cons x xs ih =>
    rcases marks with _ | ⟨m, ms⟩
    · rw [unlink_nil_marks, picked_nil_marks, List.append_nil]
    · rcases m
      · exact (ih ms).cons x
      · exact List.perm_middle.trans ((ih ms).cons x)

/-- Marks belong to positions, whatever stands there. -/
theorem unlink_map (f : α → β) (marks : List Bool) (xs : List α) :
    unlink marks (xs.map f) = (unlink marks xs).map f := by
  induction xs generalizing marks with
  | nil => rcases marks with _ | ⟨_ | _, ms⟩ <;> rfl
  | cons x xs ih =>
    rcases marks with _ | ⟨m, ms⟩
    · rw [unlink_nil_marks, unlink_nil_marks]
    · rcases m
      · exact congrArg (f x :: ·) (ih ms)
      · exact ih ms

theorem picked_map (f : α → β) (marks : List Bool) (xs : List α) :
    picked marks (xs.map f) = (picked marks xs).map f := by
  induction xs generalizing marks with
  | nil => rcases marks with _ | ⟨_ | _, ms⟩ <;> rfl
  | cons x xs ih =>
    rcases marks with _ | ⟨m, ms⟩
    · rw [picked_nil_marks, picked_nil_marks, List.map_nil]
    · rcases m
      · exact ih ms
      · exact congrArg (f x :: ·) (ih ms)

/-- **What was appended since the marks were made is left,** and not picked. -/
theorem unlink_append {marks : List Bool} {xs : List α} (h : marks.length ≤ xs.length)
    (more : List α) : unlink marks (xs ++ more) = unlink marks xs ++ more := by
  induction xs generalizing marks with
  | nil =>
    have hmarks : marks = [] := List.eq_nil_of_length_eq_zero (Nat.le_zero.mp h)
    rw [hmarks, unlink_nil_marks, unlink_nil_marks]
  | cons x xs ih =>
    rcases marks with _ | ⟨m, ms⟩
    · rw [unlink_nil_marks, unlink_nil_marks]
    · have hlen : ms.length ≤ xs.length := by simpa using h
      rcases m
      · exact congrArg (x :: ·) (ih hlen)
      · exact ih hlen

/-- Nothing of what was appended since is picked, even if it equals what was. -/
theorem picked_append {marks : List Bool} {xs : List α} (h : marks.length ≤ xs.length)
    (more : List α) : picked marks (xs ++ more) = picked marks xs := by
  induction xs generalizing marks with
  | nil =>
    have hmarks : marks = [] := List.eq_nil_of_length_eq_zero (Nat.le_zero.mp h)
    rw [hmarks, picked_nil_marks, picked_nil_marks]
  | cons x xs ih =>
    rcases marks with _ | ⟨m, ms⟩
    · rw [picked_nil_marks, picked_nil_marks]
    · have hlen : ms.length ≤ xs.length := by simpa using h
      rcases m
      · exact ih hlen
      · exact congrArg (x :: ·) (ih hlen)

/-- As many are picked as there are marks that say so. -/
theorem length_picked {marks : List Bool} {xs : List α} (h : marks.length ≤ xs.length) :
    (picked marks xs).length = marks.count true := by
  induction xs generalizing marks with
  | nil =>
    have hmarks : marks = [] := List.eq_nil_of_length_eq_zero (Nat.le_zero.mp h)
    rw [hmarks]
    rfl
  | cons x xs ih =>
    rcases marks with _ | ⟨m, ms⟩
    · rfl
    · have hlen : ms.length ≤ xs.length := by simpa using h
      rcases m
      · rw [List.count_cons_of_ne (by simp)]
        exact ih hlen
      · rw [List.count_cons_self]
        exact congrArg (· + 1) (ih hlen)

end Marks

end Queue

/-! ## What the database keeps -/

/-- **The readings that a transaction leaves in the database.** One that did not begin, was rolled
back, was given up before its first insert or did not commit leaves nothing; one that was committed
keeps every reading whose insert was done. -/
def Verdicts.written (v : Verdicts) (batch : List Reading) : List Reading :=
  if v.opening.isSome || v.preparing.isSome || v.committing.isSome
      || (batch.zip v.rows).any fun x => Database.endsTransaction x.2 then []
  else ((batch.zip v.rows).filter fun x => x.2 = .done).map (·.1)

/-- A table that takes every row that it does not refuse. -/
def ReadingTable.TakesAll (t : ReadingTable) : Prop :=
  ∀ trigger, t.trigger = some trigger → trigger.objection ≠ .ignore

/-- One insert adds the row of its reading if it was done, and nothing otherwise. -/
theorem ReadingTable.insert_of_takesAll {t : ReadingTable} (h : t.TakesAll) (r : Reading) :
    (t.insert r).2 = if (t.insert r).1 = .done then t.addReading r else t := by
  rcases htrigger : t.trigger with _ | trigger
  · simp only [insert, htrigger, if_true]
  · have hobjection := h trigger htrigger
    by_cases hobjects : objects trigger (temperatureCell r)
    · rcases hkind : trigger.objection
      · simp [insert, htrigger, hobjects, hkind]
      · simp [insert, htrigger, hobjects, hkind]
      · simp [insert, htrigger, hobjects, hkind]
      · exact absurd hkind hobjection
    · simp [insert, htrigger, hobjects]

/-- Inserts go on until one ends the transaction, and add the rows of those that were done. -/
theorem Database.insertAll_of_takesAll {t : ReadingTable} (h : t.TakesAll) (batch : List Reading) :
    (insertAll t batch).2
      = (((batch.zip (insertAll t batch).1).filter fun x => x.2 = .done).map (·.1)).foldl
          ReadingTable.addReading t := by
  -- the rows that were added are in the table for the next insert, so `t` is not fixed
  induction batch generalizing t with
  | nil => rfl
  | cons r rs ih =>
    have hinsert := t.insert_of_takesAll h r
    rcases hstep : t.insert r with ⟨v, t'⟩
    rw [hstep] at hinsert
    rcases v with _ | fault | fault
    · have ht' : t' = t.addReading r := hinsert
      -- an added row leaves the trigger, so the next insert may assume the same
      have hkept : t'.TakesAll := by
        rw [ht']
        exact h
      simp only [insertAll, hstep, List.zip_cons_cons, List.filter_cons, decide_true, if_true,
        List.map_cons, List.foldl_cons]
      rw [← ht']
      exact ih hkept
    · have ht' : t' = t := hinsert
      subst ht'
      simpa [insertAll, hstep] using ih h
    · simpa [insertAll, hstep] using hinsert

/-- No more inserts are answered than there are readings. -/
theorem Database.length_insertAll (t : ReadingTable) (batch : List Reading) :
    (insertAll t batch).1.length ≤ batch.length := by
  induction batch generalizing t with
  | nil => exact Nat.le_refl 0
  | cons r rs ih =>
    rcases hstep : t.insert r with ⟨_ | fault | fault, t'⟩
    · simpa [insertAll, hstep] using ih t'
    · simpa [insertAll, hstep] using ih t'
    · simp [insertAll, hstep]

/-- Without the column every row is refused, or the whole transaction; nothing changes either way.
-/
theorem Database.transact_of_unfit {db : Database} {t : ReadingTable} (ht : db.table = some t)
    (hsensor : t.hasSensor = false) (prepared : Bool) (batch : List Reading) :
    db.transact prepared batch
      = (if prepared then { rows := batch.map fun _ => .refused .noColumnToWrite }
          else { preparing := some .noColumnToWrite }, db) := by
  have hfault : db.writeFault? = some .noColumnToWrite := by simp [writeFault?, ht, hsensor]
  rw [transact, hfault]
  rcases prepared
  · rfl
  · rfl

/-- A table with its column takes the inserts one by one, and is given back as it was if one of them
ends the transaction. -/
theorem Database.transact_of_fit {db : Database} {t : ReadingTable} (ht : db.table = some t)
    (hsensor : t.hasSensor = true) (prepared : Bool) (batch : List Reading) :
    db.transact prepared batch
      = ({ rows := (insertAll t batch).1 },
          if (insertAll t batch).1.any endsTransaction then db
          else { db with table := some (insertAll t batch).2 }) := by
  have hfault : db.writeFault? = none := by simp [writeFault?, ht, hsensor]
  rw [transact, hfault, ht]

/-- A transaction whose rows are all refused keeps nothing. -/
theorem Verdicts.written_refused (fault : Fault) (batch : List Reading) :
    ({ rows := batch.map fun _ => .refused fault } : Verdicts).written batch = [] := by
  have hnone : (batch.zip (batch.map fun _ => Verdict.refused fault)).filter
      (fun x => x.2 = .done) = [] := by
    induction batch with
    | nil => rfl
    | cons r rs ih => simpa using ih
  unfold written
  dsimp only
  split
  · rfl
  · rw [hnone]
    rfl

/-- **The readings that are written are the rows that the table gains.** -/
theorem Database.table_transact {db : Database} {t : ReadingTable} (ht : db.table = some t)
    (hall : t.TakesAll) (prepared : Bool) (batch : List Reading) :
    (db.transact prepared batch).2.table
      = some (((db.transact prepared batch).1.written batch).foldl ReadingTable.addReading t) := by
  rcases hsensor : t.hasSensor
  · rw [transact_of_unfit ht hsensor]
    rcases prepared
    · exact ht
    · have hnone := Verdicts.written_refused .noColumnToWrite batch
      simp only [if_true, hnone, List.foldl_nil]
      exact ht
  · -- answers end with the batch at the latest, so zipping them with it drops none
    have hends : ((batch.zip (insertAll t batch).1).any fun x => endsTransaction x.2)
        = (insertAll t batch).1.any endsTransaction := by
      have hsnd := List.map_snd_zip (length_insertAll t batch)
      rw [← congrArg (List.any · endsTransaction) hsnd, List.any_map]
      rfl
    rw [transact_of_fit ht hsensor, Verdicts.written, hends, insertAll_of_takesAll hall batch]
    -- a transaction that was ended leaves the old table, and counts as nothing written
    by_cases hany : (insertAll t batch).1.any endsTransaction
    · simpa [hany] using ht
    · simp [hany]

namespace Queue

/-- What an offer leaves in the database. Without a connection there is no transaction. -/
def writtenBy (q : Queue) (batch : List Reading) (verdicts : Verdicts) : List Reading :=
  match q.connection with
  | none => []
  | some _ => verdicts.written batch

/-- No more marks are made than there are readings. -/
theorem length_stored_tally (batch : List Reading) (rows : List Verdict) :
    (tally batch rows).stored.length ≤ batch.length := by
  induction batch generalizing rows with
  | nil => exact Nat.le_refl 0
  | cons r rs ih =>
    rcases rows with _ | ⟨v, vs⟩
    · exact Nat.zero_le _
    · rcases v with _ | fault | fault
      · exact Nat.succ_le_succ (ih vs)
      · exact Nat.succ_le_succ (ih vs)
      · exact Nat.zero_le _

/-- A tally is aborted exactly where a verdict ended the transaction. -/
theorem isSome_aborted_tally (batch : List Reading) (rows : List Verdict) :
    (tally batch rows).aborted.isSome
      = (batch.zip rows).any fun x => Database.endsTransaction x.2 := by
  induction batch generalizing rows with
  | nil => rfl
  | cons r rs ih =>
    rcases rows with _ | ⟨v, vs⟩
    · rfl
    · rcases v with _ | fault | fault
      · exact ih vs
      · exact ih vs
      · rfl

/-- The marks of a tally that was not aborted are the verdicts. -/
theorem picked_stored_tally {batch : List Reading} {rows : List Verdict}
    (h : (tally batch rows).aborted = none) :
    picked (tally batch rows).stored batch
      = ((batch.zip rows).filter fun x => x.2 = .done).map (·.1) := by
  induction batch generalizing rows with
  | nil => rfl
  | cons r rs ih =>
    rcases rows with _ | ⟨v, vs⟩
    · rfl
    · rcases v with _ | fault | fault
      · exact congrArg (r :: ·) (ih h)
      · exact ih h
      · exact absurd h (by simp [tally])

/-- A transaction that was not given up keeps what its tally marks. -/
theorem written_of_tally {v : Verdicts} {batch : List Reading} (hopen : v.opening = none)
    (hprepare : v.preparing = none) (habort : (tally batch v.rows).aborted = none)
    (hcommit : v.committing = none) :
    v.written batch = picked (tally batch v.rows).stored batch := by
  have hends := isSome_aborted_tally batch v.rows
  rw [habort] at hends
  rw [picked_stored_tally habort, Verdicts.written, hopen, hprepare, hcommit, ← hends]
  rfl

theorem written_of_aborted {v : Verdicts} {batch : List Reading} {fault : Fault}
    (habort : (tally batch v.rows).aborted = some fault) : v.written batch = [] := by
  have hends := isSome_aborted_tally batch v.rows
  rw [habort] at hends
  rw [Verdicts.written, ← hends]
  simp

/-- An empty batch leaves nothing in the database, whatever it would answer. -/
@[simp] theorem writtenBy_nil (q : Queue) (v : Verdicts) : q.writtenBy [] v = [] := by
  unfold writtenBy Verdicts.written
  split <;> simp

/-- Two queues in which the same readings wait and as many were stored. -/
def SameReadings (q q' : Queue) : Prop := q'.pending = q.pending ∧ q'.delivered = q.delivered

/-- No attempt to connect touches the readings, whether it is made, fails or is not needed. -/
theorem sameReadings_tryConnect (q : Queue) (attempt : Except Fault Connection) (wall : Int) :
    q.SameReadings (q.tryConnect attempt wall).2.1 := by
  rcases hstatus : q.status
  · simp only [tryConnect, hstatus]
    exact ⟨rfl, rfl⟩
  · rcases attempt with fault | c
    · simp only [tryConnect, hstatus]
      split
      · exact ⟨rfl, rfl⟩
      · exact ⟨rfl, rfl⟩
    · simp only [tryConnect, hstatus]
      exact ⟨rfl, rfl⟩

theorem sameReadings_close (q : Queue) : q.SameReadings q.close.1 := by
  unfold close
  split
  · exact ⟨rfl, rfl⟩
  · exact ⟨rfl, rfl⟩

/-- **What comes of an offer.** What waits and what was delivered are not touched. If the batch was
committed, its marks pick what the database has kept; if the offer failed, the database has kept
nothing. -/
theorem offer_spec (q : Queue) (batch : List Reading) (v : Verdicts) :
    q.SameReadings (q.offer batch v).2.1
      ∧ match (q.offer batch v).1 with
        | .ok t => t.stored.length ≤ batch.length ∧ picked t.stored batch = q.writtenBy batch v
        | .error _ => q.writtenBy batch v = [] := by
  rcases batch with _ | ⟨r, rs⟩
  · refine ⟨⟨rfl, rfl⟩, Nat.le_refl 0, ?_⟩
    rw [writtenBy_nil]
    rfl
  · -- each exit of the offer, in the order in which the queue comes to them
    rcases hconn : q.connection with _ | c
    · simp only [offer, writtenBy, hconn, List.isEmpty_cons]
      exact ⟨⟨rfl, rfl⟩, trivial⟩
    · have hwritten : q.writtenBy (r :: rs) v = v.written (r :: rs) := by rw [writtenBy, hconn]
      rcases hopen : v.opening with _ | fault
      · rcases hprepare : v.preparing with _ | fault
        · rcases habort : (tally (r :: rs) v.rows).aborted with _ | fault
          · rcases hcommit : v.committing with _ | fault
            · have hkept := written_of_tally hopen hprepare habort hcommit
              simp only [offer, hconn, hopen, hprepare, habort, hcommit, List.isEmpty_cons]
              exact ⟨⟨rfl, rfl⟩, length_stored_tally _ _, hkept.symm.trans hwritten.symm⟩
            · simp only [offer, hconn, hopen, hprepare, habort, hcommit, List.isEmpty_cons]
              exact ⟨⟨rfl, rfl⟩, by rw [hwritten, Verdicts.written, hcommit]; simp⟩
          · simp only [offer, hconn, hopen, hprepare, habort, List.isEmpty_cons]
            exact ⟨⟨rfl, rfl⟩, hwritten.trans (written_of_aborted habort)⟩
        · simp only [offer, hconn, hopen, hprepare, List.isEmpty_cons]
          exact ⟨⟨rfl, rfl⟩, by rw [hwritten, Verdicts.written, hprepare]; simp⟩
      · simp only [offer, hconn, hopen, List.isEmpty_cons]
        exact ⟨⟨rfl, rfl⟩, by rw [hwritten, Verdicts.written, hopen]; simp⟩

end Queue

end SensorGateway.Storage
