import SensorGateway.Binary.Arithmetic
import SensorGateway.Session.Basic

/-!
Temperature histories.

The monitor keeps the last temperatures of each sensor and looks at their average. A reading is
accepted unless its time stamp is that of the reading accepted last for the same sensor, so one
reading counts once however often it is looked at. A history lives as long as some session has its
sensor's number.

The average is the sum from the oldest sample to the newest, rounded after each summand, divided by
the count. The sum starts from negative zero, the one number that leaves every summand as it is.
-/

set_option autoImplicit false

namespace SensorGateway.Monitor

/-! ## One sensor -/

/-- The last temperatures of one sensor. -/
structure History where
  sensor : SensorId
  /-- The samples, the oldest first. -/
  samples : List Temperature := []
  /-- The time stamp of the reading accepted last. -/
  lastSeen : Option Int := none
deriving DecidableEq, Repr

namespace History

/-- Makes room for a sample: at full length the oldest one goes. -/
def makeRoom (capacity : Nat) (samples : List Temperature) : List Temperature :=
  if samples.length = capacity then samples.drop 1 else samples

/-- **Accepts a reading,** unless it carries the time stamp of the last one. -/
def push (h : History) (capacity : Nat) (r : Reading) : History :=
  if h.lastSeen = some r.timestamp then h
  else
    { h with
      samples := makeRoom capacity h.samples ++ [r.temperature]
      lastSeen := some r.timestamp }

/-- The sum of samples, from the left. -/
def total (samples : List Temperature) : Temperature :=
  samples.foldl Binary.add (Binary.withSign true 0)

/-- **The average of the samples;** zero where there are none. -/
def average (h : History) : Temperature :=
  if h.samples.isEmpty then ⟨0⟩ else (total h.samples).divNat h.samples.length

end History

/-! ## Alerts -/

/-- A sensor whose average has left the band. -/
inductive Alert where
  | overheating (sensor : SensorId) (average : Temperature)
  | overcooling (sensor : SensorId) (average : Temperature)
deriving DecidableEq, Repr

/-- The band that averages should stay in. -/
structure Band where
  hot : Temperature
  cold : Temperature
deriving DecidableEq, Repr

/-- **The alert of an average, if it has left the band.** Too hot is looked at first. -/
def Band.alert? (b : Band) (sensor : SensorId) (average : Temperature) : Option Alert :=
  if b.hot.less average then some (.overheating sensor average)
  else if average.less b.cold then some (.overcooling sensor average)
  else none

/-! ## All sensors -/

/-- The histories, at most one for each sensor. -/
abbrev Histories := List History

namespace Histories

/-- The history of a sensor. -/
def find? (hs : Histories) (id : SensorId) : Option History := List.find? (·.sensor = id) hs

/-- Forgets the sensors that no session has the number of. -/
def retain (hs : Histories) (sessions : List Session) : Histories :=
  hs.filter fun h => sessions.any (·.sensor = h.sensor)

/-- Puts a history in the place of the one of the same sensor, or behind all others. -/
def put (hs : Histories) (h : History) : Histories :=
  match hs with
  | [] => [h]
  | x :: xs => if x.sensor = h.sensor then h :: xs else x :: put xs h

/-- The history of a sensor after a session's latest reading. -/
def heard (hs : Histories) (capacity : Nat) (s : Session) : History :=
  ((hs.find? s.sensor).getD { sensor := s.sensor }).push capacity s.latest

/-- Whether a session has something to look at. -/
def isHeard (s : Session) : Bool := s.active && s.latest.valid

/-- Goes through sessions in order. -/
def visit (hs : Histories) (capacity : Nat) (band : Band) : List Session → List Alert × Histories
  | [] => ([], hs)
  | s :: rest =>
    let h := hs.heard capacity s
    let (alerts, hs) := visit (hs.put h) capacity band rest
    ((band.alert? s.sensor h.average).toList ++ alerts, hs)

/-- **One look at the sessions:** forgets sensors that have left, accepts the latest reading of each
active session that has measured, and answers who has left the band, in the order of the sessions. -/
def check (hs : Histories) (capacity : Nat) (band : Band) (sessions : List Session) :
    List Alert × Histories :=
  visit (hs.retain sessions) capacity band (sessions.filter isHeard)

end Histories

end SensorGateway.Monitor
