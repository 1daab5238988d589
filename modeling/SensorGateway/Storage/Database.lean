import SensorGateway.Reading
import SensorGateway.Storage.Cell
import SensorGateway.Storage.Fault

/-!
The database of readings.

It has one table, whose rows carry increasing numbers, and at most one trigger, which objects to
rows whose temperature is above a bound. A transaction of inserts answers for each row whether it
was stored, refused alone, or refused together with everything in the transaction; only the first
two let the transaction go on.
-/

set_option autoImplicit false

namespace SensorGateway.Storage

/-! ## Contents -/

/-- A row of the table of readings. -/
structure Row where
  id : Nat
  timestamp : Cell
  sensor : Cell
  temperature : Cell
deriving DecidableEq, Repr

/-- What a trigger does with a row that it objects to. -/
inductive Objection where
  /-- The row is refused. -/
  | abort
  /-- The row is refused; what its statement did before stays, which is nothing. -/
  | fail
  /-- The transaction is thrown away. -/
  | rollback
  /-- The row is skipped and counts as stored. -/
  | ignore
deriving DecidableEq, Repr

/-- A trigger on inserts. -/
structure Trigger where
  above : Int
  objection : Objection
  words : String
deriving DecidableEq, Repr

/-- The table of readings. -/
structure ReadingTable where
  /-- Whether there is a column for the sensor. -/
  hasSensor : Bool := true
  rows : List Row := []
  trigger : Option Trigger := none
deriving DecidableEq, Repr

/-- A database: its table of readings, if there is one. -/
structure Database where
  table : Option ReadingTable := none
deriving DecidableEq, Repr

/-! ## Inserting -/

/-- **What the database answers to one insert.** -/
inductive Verdict where
  | done
  | refused (fault : Fault)
  | rolledBack (fault : Fault)
deriving DecidableEq, Repr

namespace ReadingTable

/-- The number of the next row. -/
def nextId (t : ReadingTable) : Nat := t.rows.foldl (fun n row => max n row.id) 0 + 1

/-- Adds a row of values as they are stored. -/
def add (t : ReadingTable) (timestamp sensor temperature : Cell) : ReadingTable :=
  { t with rows := t.rows ++ [⟨t.nextId, timestamp.store .integer, sensor.store .integer,
      temperature.store .real⟩] }

/-- The temperature of a reading as a cell. -/
def temperatureCell (r : Reading) : Cell := Cell.ofReal (Binary.convert r.temperature)

/-- The row of a reading. -/
def addReading (t : ReadingTable) (r : Reading) : ReadingTable :=
  t.add (.integer r.timestamp) (.integer r.sensor.value.toNat) (temperatureCell r)

/-- Whether a trigger objects to a temperature; it never objects to nothing. -/
def objects (trigger : Trigger) : Cell → Bool
  | .null => false
  | c => Cell.order c (.integer trigger.above) = .gt

/-- **Inserts one reading.** -/
def insert (t : ReadingTable) (r : Reading) : Verdict × ReadingTable :=
  match t.trigger with
  | none => (.done, t.addReading r)
  | some trigger =>
    if objects trigger (temperatureCell r) then
      match trigger.objection with
      | .abort => (.refused (.raised trigger.words), t)
      | .fail => (.refused (.raised trigger.words), t)
      | .rollback => (.rolledBack (.raised trigger.words), t)
      | .ignore => (.done, t)
    else (.done, t.addReading r)

end ReadingTable

/-- **What the database answers to a transaction of inserts:** whether it begins, whether the insert
can be prepared, a verdict for each row up to the first one that rolls the transaction back, and
whether it commits. -/
structure Verdicts where
  opening : Option Fault := none
  preparing : Option Fault := none
  rows : List Verdict := []
  committing : Option Fault := none
deriving DecidableEq, Repr

namespace Database

/-- Inserts readings one by one, up to the first that rolls the transaction back. -/
def insertAll (t : ReadingTable) : List Reading → List Verdict × ReadingTable
  | [] => ([], t)
  | r :: rest =>
    match t.insert r with
    | (.rolledBack fault, t) => ([.rolledBack fault], t)
    | (v, t) =>
      let (vs, t) := insertAll t rest
      (v :: vs, t)

/-- The complaint about a table that readings cannot be written to. -/
def writeFault? (db : Database) : Option Fault :=
  match db.table with
  | none => some .noTable
  | some t => if t.hasSensor then none else some .noColumnToWrite

/-- Whether a verdict ends its transaction. -/
def endsTransaction : Verdict → Bool
  | .rolledBack _ => true
  | _ => false

/-- **Runs a transaction of inserts.** `prepared` says that the insert was prepared earlier on the
same connection: a table that is unfit now is then complained about at each row and not before. -/
def transact (db : Database) (prepared : Bool) (batch : List Reading) : Verdicts × Database :=
  match db.writeFault?, db.table with
  | some fault, _ =>
    if prepared then ({ rows := batch.map fun _ => .refused fault }, db)
    else ({ preparing := some fault }, db)
  | none, none => ({ preparing := some .noTable }, db)
  | none, some t =>
    let (vs, after) := insertAll t batch
    ({ rows := vs }, if vs.any endsTransaction then db else { db with table := some after })

/-! ## Reading -/

/-- An integer column of a row. -/
def integerAt (index : Nat) (column : String) : Cell → Except Fault Int
  | .integer n => .ok n
  | c => .error (.columnKind c.kind index column)

/-- The sensor column of a row. -/
def sensorAt (c : Cell) : Except Fault SensorId := do
  let n ← integerAt 1 "sensor_id" c
  if 0 ≤ n && n ≤ Text.maxWord32 then return ⟨n.toNat.toUInt32⟩ else throw (.outOfRange n 1)

/-- The temperature column of a row, rounded to a temperature. -/
def temperatureAt : Cell → Except Fault Temperature
  | .real x => .ok x.convert
  | .integer n => .ok (Binary.ofInt (f := .double) n).convert
  | c => .error (.columnKind c.kind 2 "temperature")

/-- A row as a valid reading. -/
def readRow (row : Row) : Except Fault Reading := do
  let timestamp ← integerAt 0 "timestamp" row.timestamp
  let sensor ← sensorAt row.sensor
  let temperature ← temperatureAt row.temperature
  return ⟨timestamp, sensor, temperature, true⟩

/-- Whether a row stands before or beside another: by time stamp, then by number. -/
def rowBefore (a b : Row) : Bool :=
  match Cell.order a.timestamp b.timestamp with
  | .lt => true
  | .gt => false
  | .eq => a.id ≤ b.id

/-- **Reads every row,** oldest first; the first row that is no reading gives the error. -/
def readAll (db : Database) : Except Fault (List Reading) :=
  match db.table with
  | none => .error .noTable
  | some t =>
    if t.hasSensor then (t.rows.mergeSort rowBefore).mapM readRow else .error .noColumnToRead

/-! ## Changing from outside -/

/-- Makes the table if it is not there. -/
def ensureTable (db : Database) : Database :=
  match db.table with
  | some _ => db
  | none => { db with table := some {} }

/-- Changes the table, if there is one. -/
def onTable (f : ReadingTable → ReadingTable) (db : Database) : Database :=
  { db with table := db.table.map f }

end Database

end SensorGateway.Storage
