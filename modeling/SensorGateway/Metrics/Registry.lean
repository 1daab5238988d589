/-!
Counters and gauges.

A counter only grows; a gauge shows the last value it was set to. Rejections are counted by reason,
and a reason shows up with its first rejection. The exposition lists the families by name, each
with its help and its type.
-/

set_option autoImplicit false

namespace SensorGateway

/-- The metrics of a gateway. -/
structure Metrics where
  /-- Sessions admitted. -/
  sessionsTotal : Nat := 0
  /-- Sessions in the table. -/
  sessionsActive : Nat := 0
  /-- Links refused, by reason, in the order of first rejections. -/
  rejections : List (String × Nat) := []
  /-- Sessions evicted for inactivity. -/
  sessionsReaped : Nat := 0
  /-- Readings appended to the queue. -/
  readingsEnqueued : Nat := 0
  /-- Readings written to the database. -/
  readingsPersisted : Nat := 0
  /-- Inserts that failed. -/
  persistFailures : Nat := 0
  /-- Readings waiting in the queue. -/
  readingsPending : Nat := 0
deriving DecidableEq, Repr

namespace Metrics

/-! ## Counting -/

/-- Adds one to the count of a label. -/
def addLabel (label : String) : List (String × Nat) → List (String × Nat)
  | [] => [(label, 1)]
  | (l, n) :: rest => if l = label then (l, n + 1) :: rest else (l, n) :: addLabel label rest

/-- **Counts a rejection.** -/
def reject (m : Metrics) (reason : String) : Metrics :=
  { m with rejections := addLabel reason m.rejections }

/-- Counts an admitted session and shows how many there are now. -/
def newSession (m : Metrics) (active : Nat) : Metrics :=
  { m with sessionsTotal := m.sessionsTotal + 1, sessionsActive := active }

/-- Shows how many sessions there are now. -/
def showActive (m : Metrics) (active : Nat) : Metrics := { m with sessionsActive := active }

/-- Counts evicted sessions and shows how many there are now. -/
def reap (m : Metrics) (count active : Nat) : Metrics :=
  { m with sessionsReaped := m.sessionsReaped + count, sessionsActive := active }

/-- Counts a reading that was queued. -/
def enqueue (m : Metrics) : Metrics := { m with readingsEnqueued := m.readingsEnqueued + 1 }

/-- Counts what a drain came to. -/
def drained (m : Metrics) (persisted failed : Nat) : Metrics :=
  { m with
    readingsPersisted := m.readingsPersisted + persisted
    persistFailures := m.persistFailures + failed }

/-- Shows how many readings wait. -/
def showPending (m : Metrics) (pending : Nat) : Metrics := { m with readingsPending := pending }

/-! ## Exposition -/

/-- The kind of a family. -/
inductive Kind where
  | counter
  | gauge
deriving DecidableEq, Repr

/-- The word for a kind. -/
def Kind.text : Kind → String
  | counter => "counter"
  | gauge => "gauge"

/-- One sample of a family: its labels as they are written, and its value. -/
abbrev Sample := String × Nat

/-- A family of samples. -/
structure Family where
  name : String
  help : String
  kind : Kind
  samples : List Sample

/-- The text of a family. One without samples is not written. -/
def Family.text (f : Family) : String :=
  if f.samples.isEmpty then ""
  else
    let name := "thermgate_" ++ f.name
    "# HELP " ++ name ++ " " ++ f.help ++ "\n# TYPE " ++ name ++ " " ++ f.kind.text ++ "\n"
      ++ String.join (f.samples.map fun (labels, n) => name ++ labels ++ " " ++ toString n ++ "\n")

/-- The labels of a reason. -/
def reasonLabel (reason : String) : String := "\x7breason=\"" ++ reason ++ "\"\x7d"

/-- Rejections by reason, in the order of the reasons. -/
def rejectionSamples (m : Metrics) : List Sample :=
  (m.rejections.mergeSort fun a b => decide (a.1 ≤ b.1)).map fun (reason, n) =>
    (reasonLabel reason, n)

/-- **The families, by name.** -/
def families (m : Metrics) : List Family := [
  ⟨"persist_failures_total", "Reading inserts that failed and stayed queued", .counter,
    [("", m.persistFailures)]⟩,
  ⟨"readings_enqueued_total", "Readings appended to the storage queue", .counter,
    [("", m.readingsEnqueued)]⟩,
  ⟨"readings_pending", "Readings waiting in the storage queue", .gauge,
    [("", m.readingsPending)]⟩,
  ⟨"readings_persisted_total", "Readings written to the database", .counter,
    [("", m.readingsPersisted)]⟩,
  ⟨"rejections_total", "Links refused by reason", .counter, m.rejectionSamples⟩,
  ⟨"sessions_active", "Number of sensor sessions in the table", .gauge,
    [("", m.sessionsActive)]⟩,
  ⟨"sessions_reaped_total", "Sessions evicted for inactivity", .counter,
    [("", m.sessionsReaped)]⟩,
  ⟨"sessions_total", "Total number of sensor sessions admitted", .counter,
    [("", m.sessionsTotal)]⟩]

/-- **The exposition.** -/
def text (m : Metrics) : String := String.join (m.families.map Family.text)

end Metrics

end SensorGateway
