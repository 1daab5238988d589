import SensorGateway.Gateway.Basic
import SensorGateway.Sampling.Draw

/-!
What the gateway does with the readings of its sessions.

The sampler records a reading for each active session, the monitor looks at the averages of the
latest ones, and the reaper evicts sessions that have not been heard of for too long.
-/

set_option autoImplicit false

namespace SensorGateway.Gateway

/-! ## Recording -/

/-- **Records a temperature:** it becomes the latest reading of the newest session with the number
and is queued. Nothing happens if no session has the number. -/
def record (g : Gateway) (id : SensorId) (temperature : Temperature) (now : Moment) :
    Option Reading × Gateway :=
  let r : Reading := ⟨now.seconds, id, temperature, true⟩
  match g.table.updateReading id r now with
  | (true, t) =>
    (some r, { g with table := t, queue := g.queue.enqueue r }.measure Metrics.enqueue)
  | (false, _) => (none, g)

/-- The range that the sampler draws from. -/
def drawRange (g : Gateway) : Sampling.DrawRange :=
  ⟨g.config.sampler.minCelsius, g.config.sampler.maxCelsius⟩

/-- What came of a pass of the sampler. -/
structure Sampled where
  /-- How many readings were queued. -/
  count : Nat
  gateway : Gateway
  source : Sampling.WordSource

/-- Draws and records for each number of a list. -/
def sampleEach (now : Moment) (range : Sampling.DrawRange) :
    List SensorId → Sampled → Except Sampling.DrawFault Sampled
  | [], s => .ok s
  | id :: ids, s =>
    match s.source.draw range with
    | .error e => .error e
    | .ok (degrees, source) =>
      let (reading, g) := s.gateway.record id (Binary.ofInt degrees) now
      sampleEach now range ids ⟨s.count + (if reading.isSome then 1 else 0), g, source⟩

/-- **One pass of the sampler:** a drawn temperature for each session that is active at its start,
the newest first. -/
def sample (g : Gateway) (source : Sampling.WordSource) (now : Moment) :
    Except Sampling.DrawFault Sampled :=
  sampleEach now g.drawRange g.table.roster.activeIds ⟨0, g, source⟩

/-! ## Watching temperatures -/

/-- The band of the settings. -/
def band (g : Gateway) : Monitor.Band :=
  ⟨g.config.monitor.hotThreshold, g.config.monitor.coldThreshold⟩

/-- **One look of the monitor.** -/
def check (g : Gateway) : List Monitor.Alert × Gateway :=
  let (alerts, histories) :=
    g.histories.check g.config.monitor.historySize g.band g.table.sessions
  (alerts, { g with histories := histories })

/-- The notice of an alert. -/
def alertNotice : Monitor.Alert → Notice
  | .overheating id average => .overheating id average
  | .overcooling id average => .overcooling id average

/-! ## Reaping -/

/-- The notices of an evicted session. -/
def reapNotices (s : Session) : List Notice := [.timedOut s.sensor, .sensorLeft s.sensor]

/-- **One sweep of the reaper:** evicts every active session that has been idle for longer than the
settings allow. -/
def sweep (g : Gateway) (now : Moment) : List Session × Gateway × List Notice :=
  let (gone, t) := g.table.reapIdle now.steady (g.config.session.idleTimeoutSecs * 1000)
  let g := { g with table := t }
  let g := if gone.isEmpty then g else g.measure (·.reap gone.length t.activeCount)
  (gone, g, gone.flatMap reapNotices)

end SensorGateway.Gateway
