import SensorGateway.Notice
import SensorGateway.Storage.Database

/-!
The queue of readings in front of the database.

Readings wait in the order in which they came. A drain offers all that wait to the database in one
transaction and takes out those that were stored; one that is refused stays where it is, so it never
blocks those behind it. Nothing is taken out before the transaction has committed, and nothing at
all if it does not. Opening the database is tried when it is needed, failures in a row are counted,
and at the retry limit the queue gives up.

The queue never looks into the database: it is told whether opening worked and what the verdicts of
a transaction are. So a law about the queue holds whatever the database answers.
-/

set_option autoImplicit false

namespace SensorGateway.Storage

/-! ## Parts -/

/-- The settings of the queue. -/
structure QueueSettings where
  path : String
  /-- Failures in a row after which the queue gives up; at least 1. -/
  retryLimit : Nat
  /-- Milliseconds between failed attempts. -/
  retryDelay : Nat
  /-- Milliseconds between drains. -/
  drainInterval : Nat
deriving DecidableEq, Repr

/-- Whether the database is open. -/
inductive DbStatus where
  | connected
  | disconnected
deriving DecidableEq, Repr

/-- The word for a status. -/
def DbStatus.text : DbStatus → String
  | connected => "CONNECTED"
  | disconnected => "DISCONNECTED"

/-- An open database. -/
structure Connection where
  /-- Whether the insert has been prepared on this connection. -/
  prepared : Bool := false
  /-- The contents of a database that is in no file and ends with the connection. -/
  own : Option Database := none
deriving DecidableEq, Repr

/-- How many readings a drain stored and how many were refused. -/
structure DrainReport where
  persisted : Nat := 0
  failed : Nat := 0
deriving DecidableEq, Repr

/-- What came of a cycle that did not fail. -/
inductive CycleOutcome where
  | drained (report : DrainReport)
  | backoff (attempt : Nat)
deriving DecidableEq, Repr

/-- The queue. -/
structure Queue where
  settings : QueueSettings
  /-- The readings that wait, oldest first. -/
  pending : List Reading := []
  /-- How many readings have been stored so far. -/
  delivered : Nat := 0
  status : DbStatus := .disconnected
  /-- Failures in a row to open the database. -/
  retryCount : Nat := 0
  /-- The wall clock at the last failure. -/
  lastRetry : Option Int := none
  connection : Option Connection := none
deriving DecidableEq, Repr

namespace Queue

/-! ## Filling -/

/-- **Appends a reading.** -/
def enqueue (q : Queue) (r : Reading) : Queue := { q with pending := q.pending ++ [r] }

/-! ## Opening and closing -/

/-- Notes that the database was opened. -/
def opened (q : Queue) (c : Connection) : Queue :=
  { q with connection := some c, status := .connected, retryCount := 0 }

/-- Notes that the database could not be opened. -/
def failed (q : Queue) (wall : Int) : Queue :=
  { q with
    connection := none, status := .disconnected
    retryCount := q.retryCount + 1, lastRetry := some wall }

/-- **Tries to connect,** where `attempt` is what opening gives. An open database stays as it is. At
the retry limit the failure becomes fatal. -/
def tryConnect (q : Queue) (attempt : Except Fault Connection) (wall : Int) :
    Except StorageError Unit × Queue × List Notice :=
  match q.status with
  | .connected => (.ok (), q, [])
  | .disconnected =>
    match attempt with
    | .ok c => (.ok (), q.opened c, [.connectedDatabase q.settings.path])
    | .error fault =>
      let q := q.failed wall
      if q.settings.retryLimit ≤ q.retryCount then
        (.error (.retryLimitReached q.retryCount), q, [.openGivenUp q.settings.path fault])
      else
        (.error (.database fault), q,
          [.openFailed q.settings.path q.retryCount q.settings.retryLimit fault])

/-- **Closes the database** if it is open. -/
def close (q : Queue) : Queue × List Notice :=
  match q.connection with
  | some _ => ({ q with connection := none, status := .disconnected }, [.closedDatabase])
  | none => (q, [])

/-! ## Draining -/

/-- What is known of a batch once its verdicts are in: for each reading whether it was stored, the
refusals, and the fault that threw the transaction away, if one did. -/
structure Tally where
  stored : List Bool := []
  refusals : List (SensorId × Fault) := []
  aborted : Option Fault := none
deriving DecidableEq, Repr

/-- **Goes through the verdicts of a batch** in order, up to the first that ends the transaction. -/
def tally : List Reading → List Verdict → Tally
  | r :: rs, .refused fault :: vs =>
    let t := tally rs vs
    { t with stored := false :: t.stored, refusals := (r.sensor, fault) :: t.refusals }
  | _ :: rs, .done :: vs =>
    let t := tally rs vs
    { t with stored := true :: t.stored }
  | _ :: _, .rolledBack fault :: _ => { aborted := some fault }
  | _, _ => {}

/-- **Takes the stored readings out of the queue.** The marks belong to the front of the queue:
what was appended since they were made stays. -/
def unlink {α : Type} : List Bool → List α → List α
  | true :: ms, _ :: rs => unlink ms rs
  | false :: ms, r :: rs => r :: unlink ms rs
  | _, rs => rs

/-- The notices of refused readings. -/
def Tally.notices (t : Tally) : List Notice := t.refusals.map fun (id, f) => .persistFailed id f

/-- How many readings were stored and refused. -/
def Tally.report (t : Tally) : DrainReport := ⟨t.stored.count true, t.refusals.length⟩

/-- Takes out what a committed batch stored, and counts it. -/
def settle (q : Queue) (t : Tally) : Queue :=
  { q with
    pending := unlink t.stored q.pending
    delivered := q.delivered + t.report.persisted }

/-- Notes that the insert has been prepared. -/
def markPrepared (q : Queue) : Queue :=
  { q with connection := q.connection.map fun c => { c with prepared := true } }

/-- **Offers a batch to the database** in one transaction, where `verdicts` is what it answers. An
empty batch asks the database nothing. What waits is not touched; the tally of a batch that was
committed says what is to be taken out. -/
def offer (q : Queue) (batch : List Reading) (verdicts : Verdicts) :
    Except StorageError Tally × Queue × List Notice :=
  if batch.isEmpty then (.ok {}, q, [])
  else
    match q.connection with
    | none => (.error .notConnected, q, [])
    | some _ =>
      match verdicts.opening, verdicts.preparing with
      | some fault, _ => (.error (.database fault), q, [])
      | none, some fault => (.error (.database fault), q, [])
      | none, none =>
        let q := q.markPrepared
        let t := tally batch verdicts.rows
        match t.aborted, verdicts.committing with
        | some fault, _ => (.error (.transactionAborted fault), q, t.notices)
        | none, some fault => (.error (.database fault), q, t.notices)
        | none, none => (.ok t, q, t.notices)

/-- **Drains the queue,** where `verdicts` is what the database answers: all that waits is offered, and
what was committed is taken out. -/
def drain (q : Queue) (verdicts : Verdicts) :
    Except StorageError DrainReport × Queue × List Notice :=
  match q.offer q.pending verdicts with
  | (.ok t, q, notices) => (.ok t.report, q.settle t, notices)
  | (.error e, q, notices) => (.error e, q, notices)

/-! ## The cycle -/

/-- What a database answers in the course of one cycle: to opening it, and to the batch. -/
structure Answers where
  attempt : Except Fault Connection
  verdicts : Verdicts

/-- The second half of a cycle: what a drain came to. A failure closes the database. -/
def afterDrain (result : Except StorageError DrainReport × Queue × List Notice) :
    Except StorageError CycleOutcome × Queue × List Notice :=
  match result with
  | (.ok report, q, notices) => (.ok (.drained report), q, notices)
  | (.error e, q, notices) =>
    let (q, closing) := q.close
    (.error e, q, notices ++ [.drainFailed e] ++ closing)

/-- **One cycle: connect if need be, then drain.** A failure to connect is no error but a reason to
wait, unless the retry limit is reached. -/
def cycle (q : Queue) (answers : Answers) (wall : Int) :
    Except StorageError CycleOutcome × Queue × List Notice :=
  match q.status with
  | .connected => afterDrain (q.drain answers.verdicts)
  | .disconnected =>
    match q.tryConnect answers.attempt wall with
    | (.ok (), q, notices) =>
      let (result, q, more) := afterDrain (q.drain answers.verdicts)
      (result, q, notices ++ more)
    | (.error e, q, notices) =>
      if e.isFatal then (.error e, q, notices) else (.ok (.backoff q.retryCount), q, notices)

end Queue

end SensorGateway.Storage
