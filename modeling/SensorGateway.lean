import SensorGateway.Main
import SensorGateway.Proofs.Text.Bytes
import SensorGateway.Proofs.Text.Words
import SensorGateway.Proofs.Text.Numbers
import SensorGateway.Proofs.Net.Ipv4
import SensorGateway.Proofs.Sensor.Spelling
import SensorGateway.Proofs.Command.Grammar
import SensorGateway.Proofs.Binary.Exact
import SensorGateway.Proofs.Admission.Count
import SensorGateway.Proofs.Admission.History
import SensorGateway.Proofs.Handshake.Fields
import SensorGateway.Proofs.Handshake.Format
import SensorGateway.Proofs.Handshake.Wire
import SensorGateway.Proofs.Session.Operations
import SensorGateway.Proofs.Session.Refusals
import SensorGateway.Proofs.Session.Consistency
import SensorGateway.Proofs.Session.Ports
import SensorGateway.Proofs.Session.Departures
import SensorGateway.Proofs.Session.Lookup
import SensorGateway.Proofs.Session.Census
import SensorGateway.Proofs.Session.Progress
import SensorGateway.Proofs.Session.Traffic
import SensorGateway.Proofs.Session.Tickets
import SensorGateway.Proofs.Session.Identifiers
import SensorGateway.Proofs.Session.Idleness
import SensorGateway.Proofs.Storage.Batch
import SensorGateway.Proofs.Storage.Connection
import SensorGateway.Proofs.Storage.Delivery
import SensorGateway.Proofs.Storage.Pass
import SensorGateway.Proofs.Storage.Rows
import SensorGateway.Proofs.Storage.Contents
import SensorGateway.Proofs.Storage.Archive
import SensorGateway.Proofs.Config.Fields
import SensorGateway.Proofs.Config.Overrides
import SensorGateway.Proofs.Config.Sources
import SensorGateway.Proofs.Config.Validation
import SensorGateway.Proofs.Tls.Credentials
import SensorGateway.Proofs.Tls.Connector
import SensorGateway.Proofs.Monitor.Windows
import SensorGateway.Proofs.Gateway.Steps
import SensorGateway.Proofs.Gateway.Counters
import SensorGateway.Proofs.Gateway.Turnstile
import SensorGateway.Proofs.Gateway.Worker
import SensorGateway.Proofs.Gateway.Retries
import SensorGateway.Proofs.Gateway.Persisted
import SensorGateway.Proofs.Gateway.Site
import SensorGateway.Proofs.Gateway.Shutdown
import SensorGateway.Proofs.Gateway.Switchboard
import SensorGateway.Proofs.Gateway.Opening
import SensorGateway.Proofs.Gateway.Untimed
import SensorGateway.Proofs.Gateway.Sampling
import SensorGateway.Proofs.Gateway.Recording
import SensorGateway.Proofs.Gateway.Averages
import SensorGateway.Proofs.Gateway.Validated
import SensorGateway.Proofs.Gateway.Greeting
import SensorGateway.Proofs.Calendar.Days
import SensorGateway.Proofs.Calendar.Stamps
import SensorGateway.Proofs.Listing.Readings
