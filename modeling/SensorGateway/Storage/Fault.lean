/-!
What can go wrong with the database.
-/

set_option autoImplicit false

namespace SensorGateway.Storage

/-- A complaint of the database itself. -/
inductive Fault where
  /-- The file cannot be opened or made. -/
  | cannotOpen (path : String)
  /-- The file holds something else. -/
  | notDatabase
  /-- The table of readings is not there. -/
  | noTable
  /-- A row cannot be written, for the table lacks the column of sensors. -/
  | noColumnToWrite
  /-- Rows cannot be read, for the table lacks the column of sensors. -/
  | noColumnToRead
  /-- A trigger objected with its own words. -/
  | raised (words : String)
  /-- A cell holds another kind of value than its column should. -/
  | columnKind (kind : String) (index : Nat) (column : String)
  /-- A number is outside of what its column should hold. -/
  | outOfRange (value : Int) (index : Nat)
deriving DecidableEq, Repr

/-- The name of the table of readings. -/
def tableName : String := "sensor_data"

/-- The query that reads every row, oldest first. -/
def readQuery : String :=
  "SELECT timestamp, sensor_id, temperature FROM sensor_data ORDER BY timestamp ASC, id ASC"

namespace Fault

/-- The wording of a complaint. -/
def message : Fault → String
  | cannotOpen path => "unable to open database file: " ++ path
  | notDatabase => "file is not a database"
  | noTable => "no such table: " ++ tableName
  | noColumnToWrite => "table " ++ tableName ++ " has no column named sensor_id"
  | noColumnToRead => "no such column: sensor_id in " ++ readQuery ++ " at offset 18"
  | raised words => words
  | columnKind kind index column =>
    "Invalid column type " ++ kind ++ " at index: " ++ toString index ++ ", name: " ++ column
  | outOfRange value index =>
    "Integer " ++ toString value ++ " out of range at index " ++ toString index

end Fault

/-- Why the queue could not do what it was asked for. -/
inductive StorageError where
  | database (fault : Fault)
  /-- The database threw the whole transaction away. -/
  | transactionAborted (fault : Fault)
  | notConnected
  /-- The database could not be opened too many times in a row. -/
  | retryLimitReached (attempts : Nat)
deriving DecidableEq, Repr

namespace StorageError

/-- The wording of an error. -/
def message : StorageError → String
  | database fault => "SQLite error: " ++ fault.message
  | transactionAborted fault => "transaction rolled back by SQLite: " ++ fault.message
  | notConnected => "database not connected"
  | retryLimitReached attempts =>
    "database unreachable after " ++ toString attempts ++ " attempts"

/-- **Only the retry limit stops the gateway.** -/
def isFatal : StorageError → Bool
  | retryLimitReached _ => true
  | _ => false

end StorageError

end SensorGateway.Storage
