import SensorGateway.Storage.Queue

/-!
The queue on a disk.

Here the answers that the queue is told come from a database file. The path may name a database in
no file: the empty path and `:memory:` open a database that ends with its connection.
-/

set_option autoImplicit false

namespace SensorGateway

open Storage

namespace Disk

/-- Whether a path names a database in no file. -/
def isFileless (path : String) : Bool := path = "" || path = ":memory:"

/-- **The database at a path,** made empty where there is none yet. -/
def databaseAt (d : Disk) (path : String) : Except Fault Database :=
  match d.writable path with
  | .error _ => .error (.cannotOpen path)
  | .ok () =>
    match d.node? (partsOf path) with
    | none => .ok {}
    | some (.database db) => .ok db
    | some (.file []) => .ok {}
    | some (.file _) => .error .notDatabase
    | some .directory => .error (.cannotOpen path)

/-- Opens the database at a path and makes its table if need be. -/
def openDatabase (d : Disk) (path : String) : Except Fault Connection × Disk :=
  if isFileless path then (.ok { own := some (Database.ensureTable {}) }, d)
  else
    match d.databaseAt path with
    | .error fault => (.error fault, d)
    | .ok db => (.ok {}, d.put (partsOf path) (.database db.ensureTable))

/-- Changes the database at a path through another connection. -/
def editDatabase (d : Disk) (path : String) (f : Database → Database) : Disk :=
  match d.databaseAt path with
  | .ok db => d.put (partsOf path) (.database (f db))
  | .error _ => d

/-- The database that a connection is to. -/
def connected (d : Disk) (path : String) (c : Connection) : Database :=
  match c.own with
  | some db => db
  | none => match d.node? (partsOf path) with
    | some (.database db) => db
    | _ => {}

/-- Puts back the database that a connection is to. -/
def store (d : Disk) (path : String) (c : Connection) (db : Database) : Connection × Disk :=
  match c.own with
  | some _ => ({ c with own := some db }, d)
  | none => (c, d.put (partsOf path) (.database db))

end Disk

namespace Storage.Queue

/-- A queue beside the disk that its database is on. -/
abbrev OnDisk (α : Type) := α × Queue × Disk × List Notice

/-- What opening gives, if the queue is to be connected. -/
def attempt (q : Queue) (d : Disk) : Except Fault Connection × Disk :=
  match q.status, q.connection with
  | .connected, some c => (.ok c, d)
  | _, _ => d.openDatabase q.settings.path

/-- Puts the contents of a database in no file back into the open connection. -/
def refresh (q : Queue) (c : Connection) : Queue :=
  { q with connection := q.connection.map fun held => { held with own := c.own } }

/-- Connects to the database on the disk. -/
def tryConnectOn (q : Queue) (d : Disk) (wall : Int) : OnDisk (Except StorageError Unit) :=
  let (attempt, d) := q.attempt d
  let (result, q, notices) := q.tryConnect attempt wall
  (result, q, d, notices)

/-- Drains into the database on the disk. -/
def drainOn (q : Queue) (d : Disk) : OnDisk (Except StorageError DrainReport) :=
  match q.connection with
  | none =>
    let (result, q, notices) := q.drain {}
    (result, q, d, notices)
  | some c =>
    let (verdicts, db) := (d.connected q.settings.path c).transact c.prepared q.pending
    let (c, d) := d.store q.settings.path c db
    let (result, q, notices) := (q.refresh c).drain verdicts
    (result, q, d, notices)

/-- **Runs one cycle against the disk.** -/
def cycleOn (q : Queue) (d : Disk) (wall : Int) : OnDisk (Except StorageError CycleOutcome) :=
  match q.attempt d with
  | (.error fault, d) =>
    let (result, q, notices) := q.cycle ⟨.error fault, {}⟩ wall
    (result, q, d, notices)
  | (.ok c, d) =>
    let (verdicts, db) := (d.connected q.settings.path c).transact c.prepared q.pending
    let (c, d) := d.store q.settings.path c db
    let (result, q, notices) := (q.refresh c).cycle ⟨.ok c, verdicts⟩ wall
    (result, q, d, notices)

/-- **Every reading in the database,** oldest first. -/
def readAll (q : Queue) (d : Disk) : Except StorageError (List Reading) :=
  match q.connection with
  | none => .error .notConnected
  | some c =>
    match (d.connected q.settings.path c).readAll with
    | .ok readings => .ok readings
    | .error fault => .error (.database fault)

end Storage.Queue

end SensorGateway
