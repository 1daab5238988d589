import Mathlib.Data.List.Induction
import SensorGateway.Proofs.Binary.Exact
import SensorGateway.Storage.Database

/-!
Readings as rows, and back.

A reading that is inserted becomes a row: its time stamp and its sensor as they are, its temperature
in the wider format, without the sign of zero, and nothing for what is no number. A row is read back
column by column. So all of a reading comes back but the sign of a zero and the mark whether it was
valid, unless its temperature is no number, which no answer can hold (`readRow_rowOf`).

Rows get the numbers 1, 2 and so on. An answer is sorted by time stamp and then by number, which for
rows that were added one after the other is a stable sort by time stamp (`mergeSort_archived`); what
comes out is `OldestFirst`.
-/

set_option autoImplicit false

namespace SensorGateway.Storage

/-! ## One row -/

/-- **A reading as it comes back:** valid, and without the sign of a zero. -/
def restored (r : Reading) : Reading :=
  { r with
    temperature := if r.temperature.unsigned = 0 then ⟨0⟩ else r.temperature
    valid := true }

/-- The row of a reading. -/
def rowOf (id : Nat) (r : Reading) : Row :=
  ⟨id, .integer r.timestamp, .integer r.sensor.value.toNat, ReadingTable.temperatureCell r⟩

variable {r : Reading}

/-- A temperature is as it is stored already. -/
theorem store_temperatureCell (r : Reading) :
    (ReadingTable.temperatureCell r).store .real = ReadingTable.temperatureCell r := by
  unfold ReadingTable.temperatureCell
  generalize (Binary.convert r.temperature : Real64) = x
  -- a cell is made the way it is stored, so storing it once more finds nothing left to do
  by_cases hnan : x.isNaN = true
  · have hcell : Cell.ofReal x = .null := if_pos hnan
    rw [hcell]
    rfl
  · by_cases hzero : x.unsigned = 0
    · have hcell : Cell.ofReal x = .real ⟨0⟩ := (if_neg hnan).trans (if_pos hzero)
      rw [hcell]
      decide
    · have hcell : Cell.ofReal x = .real x := (if_neg hnan).trans (if_neg hzero)
      rw [hcell]
      exact hcell

theorem addReading_eq (t : ReadingTable) (r : Reading) :
    t.addReading r = { t with rows := t.rows ++ [rowOf t.nextId r] } := by
  rw [ReadingTable.addReading, ReadingTable.add, store_temperatureCell]
  rfl

/-- A temperature column comes back, unless it is nothing. -/
theorem temperatureAt_cell (hbits : r.temperature.bits < 2 ^ 32) :
    Database.temperatureAt (ReadingTable.temperatureCell r)
      = if r.temperature.isNaN then .error (.columnKind "Null" 2 "temperature")
        else .ok (restored r).temperature := by
  unfold ReadingTable.temperatureCell
  by_cases hnan : r.temperature.isNaN = true
  · have hcell : Cell.ofReal (Binary.convert r.temperature) = .null :=
      if_pos ((Binary.isNaN_convert r.temperature).trans hnan)
    rw [hcell, if_pos hnan]
    rfl
  · -- the wider number is one as well, and zero exactly if this one is
    have hnumber := Bool.eq_false_iff.mpr hnan
    have hwide : ¬ (Binary.convert r.temperature : Real64).isNaN = true := by
      rw [Binary.isNaN_convert]
      exact hnan
    rw [if_neg hnan]
    by_cases hzero : r.temperature.unsigned = 0
    · have hcell : Cell.ofReal (Binary.convert r.temperature) = .real ⟨0⟩ :=
        (if_neg hwide).trans (if_pos ((Binary.unsigned_convert_eq_zero hnumber).mpr hzero))
      have hback : (restored r).temperature = ⟨0⟩ := if_pos hzero
      rw [hcell, hback]
      decide
    · have hcell : Cell.ofReal (Binary.convert r.temperature) = .real (Binary.convert r.temperature) :=
        (if_neg hwide).trans (if_neg (mt (Binary.unsigned_convert_eq_zero hnumber).mp hzero))
      have hback : (restored r).temperature = r.temperature := if_neg hzero
      rw [hcell, hback]
      exact congrArg Except.ok (Binary.convert_convert hnumber hbits)

/-- A sensor column comes back, for no identifier is greater than what the reader admits. -/
theorem sensorAt_integer (id : SensorId) : Database.sensorAt (.integer id.value.toNat) = .ok id := by
  have hword : (id.value.toNat : Int) ≤ Text.maxWord32 := by
    have hlt := id.value.toNat_lt
    have hmax : Text.maxWord32 = 4294967295 := by decide
    omega
  have hback : (id.value.toNat : Int).toNat.toUInt32 = id.value := by
    rw [Int.toNat_natCast]
    exact UInt32.ofNat_toNat
  have hfits : (decide ((0 : Int) ≤ id.value.toNat)
      && decide ((id.value.toNat : Int) ≤ Text.maxWord32)) = true := by
    rw [decide_eq_true (Int.natCast_nonneg _), decide_eq_true hword]
    rfl
  show (if (decide ((0 : Int) ≤ id.value.toNat)
    && decide ((id.value.toNat : Int) ≤ Text.maxWord32)) = true then _ else _) = _
  rw [if_pos hfits, hback]
  rfl

/-- **A row is read as the reading that it was written for,** unless that had no number. -/
theorem readRow_rowOf (hbits : r.temperature.bits < 2 ^ 32) (id : Nat) :
    Database.readRow (rowOf id r)
      = if r.temperature.isNaN then .error (.columnKind "Null" 2 "temperature")
        else .ok (restored r) := by
  have htemperature := temperatureAt_cell hbits
  have hsensor := sensorAt_integer r.sensor
  simp only [Database.readRow, rowOf, Database.integerAt, hsensor, htemperature]
  by_cases hnan : r.temperature.isNaN = true
  · rw [if_pos hnan, if_pos hnan]
    rfl
  · rw [if_neg hnan, if_neg hnan]
    rfl

/-! ## All rows -/

/-- **The rows of readings that were inserted one after the other.** -/
def archived (readings : List Reading) : List Row :=
  readings.zipIdx.map fun (r, i) => rowOf (i + 1) r

/-- One more reading has its row behind all others, numbered by how many there are. -/
theorem archived_concat (readings : List Reading) (r : Reading) :
    archived (readings ++ [r]) = archived readings ++ [rowOf (readings.length + 1) r] := by
  rw [archived, List.zipIdx_append, List.map_append, Nat.zero_add]
  rfl

theorem archived_eq_nil {readings : List Reading} (h : archived readings = []) : readings = [] := by
  have hlength := congrArg List.length h
  rw [archived, List.length_map, List.length_zipIdx] at hlength
  exact List.eq_nil_of_length_eq_zero hlength

/-- **The next number is one more than there are readings.** -/
theorem nextId_archived {t : ReadingTable} {readings : List Reading}
    (h : t.rows = archived readings) : t.nextId = readings.length + 1 := by
  rw [ReadingTable.nextId, h]
  congr 1
  clear h
  -- the greatest number is that of the last row
  induction readings using List.reverseRecOn with
  | nil => rfl
  | append_singleton readings r ih =>
    rw [archived_concat, List.foldl_append, ih, List.length_append]
    show max readings.length (readings.length + 1) = readings.length + 1
    omega

/-- **Readings that are added to their rows make the rows of all of them.** -/
theorem foldl_addReading {t : ReadingTable} {readings : List Reading}
    (h : t.rows = archived readings) (more : List Reading) :
    more.foldl ReadingTable.addReading t = { t with rows := archived (readings ++ more) } := by
  induction more generalizing t readings with
  | nil =>
    rw [List.append_nil, ← h]
    rfl
  | cons r more ih =>
    have hadded : (t.addReading r).rows = archived (readings ++ [r]) := by
      rw [addReading_eq, archived_concat, nextId_archived h, h]
    rw [List.foldl_cons, ih hadded, addReading_eq, List.append_assoc]
    rfl

/-! ## Reading them back -/

/-- Whether a reading is not younger than another. -/
def notYounger (a b : Reading) : Bool := a.timestamp ≤ b.timestamp

theorem notYounger_trans (a b c : Reading) (hab : notYounger a b = true)
    (hbc : notYounger b c = true) : notYounger a c = true := by
  unfold notYounger at *
  rw [decide_eq_true_eq] at *
  omega

theorem notYounger_total (a b : Reading) : (notYounger a b || notYounger b a) = true := by
  unfold notYounger
  rw [Bool.or_eq_true, decide_eq_true_eq, decide_eq_true_eq]
  omega

/-- **The order of the answer is a stable sort:** rows of one time stamp stay in the order of their
numbers. -/
theorem mergeSort_archived (readings : List Reading) :
    (archived readings).mergeSort Database.rowBefore
      = (readings.zipIdx.mergeSort (List.zipIdxLE notYounger)).map fun (r, i) => rowOf (i + 1) r := by
  refine (List.map_mergeSort fun x _ y _ => ?_).symm
  -- both orders compare the time stamps, and where these are equal the places
  obtain ⟨a, i⟩ := x
  obtain ⟨b, j⟩ := y
  unfold List.zipIdxLE Database.rowBefore notYounger
  simp only [rowOf, Cell.order, decide_eq_true_eq, Nat.add_le_add_iff_right]
  rcases htime : compare a.timestamp b.timestamp
  · have hlt := Int.compare_eq_lt.mp htime
    rw [if_pos (by omega), if_neg (by omega)]
  · have heq := Int.compare_eq_eq.mp htime
    rw [if_pos (by omega), if_pos (by omega)]
  · have hgt := Int.compare_eq_gt.mp htime
    rw [if_neg (by omega)]

/-- **Readings in the order of an answer:** those that were stored, the oldest first, and of one time
stamp in the order of their insertion. -/
structure OldestFirst (answer stored : List Reading) : Prop where
  all : answer.Perm (stored.map restored)
  sorted : answer.Pairwise (·.timestamp ≤ ·.timestamp)
  stable : ∀ time, answer.filter (·.timestamp = time)
    = (stored.map restored).filter (·.timestamp = time)

/-- **A stable sort of what was stored is the order of an answer.** -/
theorem oldestFirst_mergeSort (stored : List Reading) :
    OldestFirst ((stored.mergeSort notYounger).map restored) stored := by
  have hperm := List.mergeSort_perm stored notYounger
  refine ⟨hperm.map restored, ?_, fun time => ?_⟩
  · rw [List.pairwise_map]
    refine (List.pairwise_mergeSort notYounger_trans notYounger_total stored).imp fun h => ?_
    exact of_decide_eq_true h
  · -- the readings of one time stamp are sorted already, so a stable sort leaves them
    have hgroup : (stored.filter (·.timestamp = time)).Pairwise fun a b => notYounger a b = true := by
      refine List.pairwise_of_forall_mem_list fun a ha b hb => ?_
      have hatime := of_decide_eq_true (List.mem_filter.mp ha).2
      have hbtime := of_decide_eq_true (List.mem_filter.mp hb).2
      exact decide_eq_true (by omega)
    -- what is left in order is a part of the answer, and the answer has no more of that time stamp
    have hsub := List.sublist_mergeSort notYounger_trans notYounger_total hgroup List.filter_sublist
    have hfiltered := hsub.filter (·.timestamp = time)
    rw [List.filter_filter] at hfiltered
    simp only [Bool.and_self] at hfiltered
    have hlength := (hperm.filter (·.timestamp = time)).length_eq
    have hsame := hfiltered.eq_of_length hlength.symm
    rw [List.filter_map, List.filter_map]
    exact congrArg (List.map restored) hsame.symm

/-- Rows are read one by one, up to the first that is no reading. -/
theorem mapM_readRow {numbered : List (Reading × Nat)}
    (hbits : ∀ x ∈ numbered, x.1.temperature.bits < 2 ^ 32) :
    (numbered.map fun (r, i) => rowOf (i + 1) r).mapM Database.readRow
      = if numbered.any (·.1.temperature.isNaN) then .error (.columnKind "Null" 2 "temperature")
        else .ok ((numbered.map (·.1)).map restored) := by
  induction numbered with
  | nil => rfl
  | cons x rest ih =>
    obtain ⟨r, i⟩ := x
    obtain ⟨hr, hrest⟩ := List.forall_mem_cons.mp hbits
    have hrow := readRow_rowOf hr (i + 1)
    rw [List.map_cons, List.mapM_cons, ih hrest, hrow, List.any_cons]
    by_cases hnan : r.temperature.isNaN = true
    · rw [if_pos hnan, hnan]
      rfl
    · rw [if_neg hnan, Bool.eq_false_iff.mpr hnan, Bool.false_or]
      by_cases hlater : rest.any (·.1.temperature.isNaN) = true
      · rw [if_pos hlater, if_pos hlater]
        rfl
      · rw [if_neg hlater, if_neg hlater]
        rfl

/-- **What a database answers that readings were inserted into.** -/
theorem readAll_archived {db : Database} {t : ReadingTable} (ht : db.table = some t)
    (hsensor : t.hasSensor = true) {stored : List Reading} (hrows : t.rows = archived stored)
    (hbits : ∀ r ∈ stored, r.temperature.bits < 2 ^ 32) :
    ((∀ r ∈ stored, r.temperature.isNaN = false) →
        ∃ answer, db.readAll = .ok answer ∧ OldestFirst answer stored)
      ∧ ((∃ r ∈ stored, r.temperature.isNaN = true) → ∃ fault, db.readAll = .error fault) := by
  -- the places are only there to be compared, and leave with the numbers of the rows
  have hfirsts : (stored.zipIdx.mergeSort (List.zipIdxLE notYounger)).map (·.1)
      = stored.mergeSort notYounger := List.mergeSort_zipIdx
  have hmem : ∀ r, r ∈ (stored.zipIdx.mergeSort (List.zipIdxLE notYounger)).map (·.1)
      ↔ r ∈ stored := by
    intro r
    rw [hfirsts, List.mem_mergeSort]
  have hwords : ∀ x ∈ stored.zipIdx.mergeSort (List.zipIdxLE notYounger),
      x.1.temperature.bits < 2 ^ 32 :=
    fun x hx => hbits x.1 ((hmem x.1).mp (List.mem_map_of_mem hx))
  have hread := mapM_readRow hwords
  rw [← mergeSort_archived, hfirsts] at hread
  have hall : db.readAll = ((archived stored).mergeSort Database.rowBefore).mapM Database.readRow := by
    simp only [Database.readAll, ht, hsensor, hrows, if_true]
  rw [hall, hread]
  refine ⟨fun hnumbers => ?_, fun hnan => ?_⟩
  · have hnone : ¬ (stored.zipIdx.mergeSort (List.zipIdxLE notYounger)).any
        (·.1.temperature.isNaN) = true := by
      intro hany
      obtain ⟨x, hx, hnan⟩ := List.any_eq_true.mp hany
      rw [hnumbers x.1 ((hmem x.1).mp (List.mem_map_of_mem hx))] at hnan
      cases hnan
    rw [if_neg hnone]
    exact ⟨_, rfl, oldestFirst_mergeSort stored⟩
  · obtain ⟨r, hr, hnan⟩ := hnan
    obtain ⟨x, hx, rfl⟩ := List.mem_map.mp ((hmem r).mpr hr)
    rw [if_pos (List.any_eq_true.mpr ⟨x, hx, hnan⟩)]
    exact ⟨_, rfl⟩

end SensorGateway.Storage
