import SensorGateway.Config.Validation
import SensorGateway.Metrics.Registry
import SensorGateway.Monitor.History
import SensorGateway.Notice
import SensorGateway.Storage.Queue
import SensorGateway.Tls.Credentials

/-!
The gateway.

It is what its tasks share: the session table, the queue of readings, the metrics if they are on,
the histories of the monitor, and the stop flag. Each task acts on it in steps; a step answers with
the gateway after it and with what it has told the log.
-/

set_option autoImplicit false

namespace SensorGateway

/-- The shared state of a gateway. -/
structure Gateway where
  config : Config
  table : Table
  queue : Storage.Queue
  /-- The metrics, where they are on. -/
  metrics : Option Metrics
  histories : Monitor.Histories := []
  /-- Whether the stop flag is raised. It is never lowered. -/
  stopped : Bool := false
  /-- The ticket of the next link. -/
  nextTicket : Ticket := 0
deriving DecidableEq, Repr

namespace Gateway

/-! ## Making one -/

/-- **A gateway before its first session,** as its settings want it. Room for all addresses that may
ever be listed is set aside at this point; that a bound on them beyond what can be allocated ends the
program here is left out. -/
def ofConfig (c : Config) : Gateway where
  config := c
  table := { policy := c.session.idPolicy
             ledger := { ceiling := c.admission.maxPerAddress
                         capacity := c.admission.maxAddresses } }
  queue := { settings := c.storage.queueSettings }
  metrics := if c.metrics.enabled then some {} else none

/-- **Makes a gateway,** unless credentials that it needs cannot be loaded. Memory is taken to suffice,
as it is in `ofConfig`. -/
def build (disk : Disk) (c : Config) (crypto : Tls.Cryptography := {}) :
    Except GatewayError Gateway := do
  if c.tls.enabled then Tls.acceptor disk c.tls crypto
  if c.clientTls.enabled then discard (Tls.connector disk c.clientTls crypto)
  return ofConfig c

/-! ## Small steps -/

/-- Changes the metrics, where they are on. -/
def measure (g : Gateway) (f : Metrics → Metrics) : Gateway := { g with metrics := g.metrics.map f }

/-- Shows in the metrics how many sessions there are now. -/
def showActive (g : Gateway) : Gateway := g.measure (·.showActive g.table.activeCount)

/-- Raises the stop flag. -/
def stop (g : Gateway) : Gateway := { g with stopped := true }

/-- Takes a ticket for a new link. The counter is not expected to come round (`Ticket`). -/
def takeTicket (g : Gateway) : Ticket × Gateway :=
  (g.nextTicket, { g with nextTicket := g.nextTicket + 1 })

end Gateway

end SensorGateway
