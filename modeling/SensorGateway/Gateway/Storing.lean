import SensorGateway.Gateway.Basic
import SensorGateway.Storage.File

/-!
The storage worker.

Again and again it runs one cycle of the queue and then waits: the drain interval after a drain, the
retry delay after a failure. It gives up at the retry limit. When the gateway stops, it drains once
more, closes the database, and says what is left.

As with the queue, what the database answers comes from outside; `storeOn` and `flushOn` take it from
the disk.
-/

set_option autoImplicit false

namespace SensorGateway.Gateway

open Storage

/-! ## A pass -/

/-- **What follows from a cycle:** how long to wait, or the error that the worker ends with. -/
def afterCycle (g : Gateway) (outcome : Except StorageError CycleOutcome) :
    Except StorageError Nat × Gateway × List Notice :=
  let settings := g.queue.settings
  let showPending (g : Gateway) : Gateway := g.measure (·.showPending g.queue.pending.length)
  match outcome with
  | .ok (.drained report) =>
    (.ok settings.drainInterval,
      showPending (g.measure (·.drained report.persisted report.failed)), [])
  | .ok (.backoff attempt) =>
    (.ok settings.retryDelay, showPending g,
      [.workerRetries settings.retryDelay attempt settings.retryLimit])
  | .error e =>
    if e.isFatal then (.error e, g, [.workerGaveUp e])
    else (.ok settings.retryDelay, showPending g, [.workerFailed e])

/-- One pass of the worker, with what the database answers. -/
def store (g : Gateway) (answers : Queue.Answers) (now : Moment) :
    Except StorageError Nat × Gateway × List Notice :=
  let (outcome, q, notices) := g.queue.cycle answers now.wall
  let (next, g, more) := { g with queue := q }.afterCycle outcome
  (next, g, notices ++ more)

/-- **One pass of the worker against the disk.** -/
def storeOn (g : Gateway) (d : Disk) (now : Moment) :
    Except StorageError Nat × Gateway × Disk × List Notice :=
  let (outcome, q, d, notices) := g.queue.cycleOn d now.wall
  let (next, g, more) := { g with queue := q }.afterCycle outcome
  (next, g, d, notices ++ more)

/-! ## The end -/

/-- What a last drain has to say. A failed one says nothing. -/
def flushNotices : Except StorageError DrainReport → List Notice
  | .ok report => if 0 < report.persisted then [.flushed report.persisted] else []
  | .error _ => []

/-- What is left of a queue when its worker ends. -/
def leftNotices (q : Queue) : List Notice :=
  if q.pending.isEmpty then [] else [.notPersisted q.pending.length]

/-- The end of the worker, after the last drain if there was one. -/
def closeStore (g : Gateway) (result : Except StorageError DrainReport) : Gateway × List Notice :=
  let (q, closing) := g.queue.close
  ({ g with queue := q }, closing ++ flushNotices result ++ leftNotices q)

/-- The last act of the worker, with what the database answers: drain if it is open, then close it.
The metrics stay as they are. -/
def flush (g : Gateway) (verdicts : Verdicts) : Gateway × List Notice :=
  match g.queue.status with
  | .disconnected => g.closeStore (.ok {})
  | .connected =>
    let (result, q, notices) := g.queue.drain verdicts
    let (g, more) := { g with queue := q }.closeStore result
    (g, notices ++ more)

/-- **The last act of the worker against the disk.** -/
def flushOn (g : Gateway) (d : Disk) : Gateway × Disk × List Notice :=
  match g.queue.status with
  | .disconnected =>
    let (g, notices) := g.closeStore (.ok {})
    (g, d, notices)
  | .connected =>
    let (result, q, d, notices) := g.queue.drainOn d
    let (g, more) := { g with queue := q }.closeStore result
    (g, d, notices ++ more)

end SensorGateway.Gateway
