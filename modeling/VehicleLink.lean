import VehicleLink.Frame.Scanner
import VehicleLink.Message.Targets
import VehicleLink.Message.Basic
import VehicleLink.Aggregate.Basic
import VehicleLink.Table
import VehicleLink.Address.Parser
import VehicleLink.RelayError
import VehicleLink.Notice
import VehicleLink.State
import VehicleLink.SendFailureLog
import VehicleLink.VehicleClock
import VehicleLink.SafetyGate
import VehicleLink.Report
import VehicleLink.Config.Validation
import VehicleLink.Main
import VehicleLink.Relay
import VehicleLink.Serial.TransmitQueue
import VehicleLink.Uplink.Run
import VehicleLink.Downlink.Run
import VehicleLink.Proofs.Table
import VehicleLink.Proofs.Directory.Registry
import VehicleLink.Proofs.Directory.Routes
import VehicleLink.Proofs.Directory.Consistency
import VehicleLink.Proofs.Directory.Delivery
import VehicleLink.Proofs.Frame.Whole
import VehicleLink.Proofs.Frame.Cutting
import VehicleLink.Proofs.Frame.Accounting
import VehicleLink.Proofs.Frame.Joining
import VehicleLink.Proofs.Frame.Grammar
import VehicleLink.Proofs.Aggregate.Header
import VehicleLink.Proofs.Aggregate.Collecting
import VehicleLink.Proofs.Aggregate.Histories
import VehicleLink.Proofs.Aggregate.Partition
import VehicleLink.Proofs.Uplink.Admission
import VehicleLink.Proofs.Uplink.ArmGate
import VehicleLink.Proofs.Downlink.Arrivals
import VehicleLink.Proofs.Downlink.Settings
import VehicleLink.Proofs.Downlink.Actions
import VehicleLink.Proofs.Downlink.Batches
import VehicleLink.Proofs.Downlink.Isolation
import VehicleLink.Proofs.Downlink.FanOut
import VehicleLink.Proofs.Downlink.Injection
import VehicleLink.Proofs.Downlink.Recovery
import VehicleLink.Proofs.Frame.Encoding
import VehicleLink.Proofs.Frame.Realigning
import VehicleLink.Proofs.Frame.Checksum
import VehicleLink.Proofs.Frame.Corruption
import VehicleLink.Proofs.Uplink.Eviction
import VehicleLink.Proofs.Uplink.Traces
import VehicleLink.Proofs.Streams
import VehicleLink.Proofs.Counters
import VehicleLink.Proofs.SendFailureLog
import VehicleLink.Proofs.Report.Accounts
import VehicleLink.Proofs.Report.Conservation
import VehicleLink.Proofs.Directory.Lookups
import VehicleLink.Proofs.Directory.Membership
import VehicleLink.Proofs.Downlink.LockedGate
import VehicleLink.Proofs.Downlink.GreedyBatches
import VehicleLink.Proofs.Downlink.Tally
import VehicleLink.Proofs.Directory.FlatRoutes
import VehicleLink.Proofs.Serial.Backpressure
import VehicleLink.Proofs.Uplink.Room
import VehicleLink.Proofs.Config.Limits
import VehicleLink.Proofs.Downlink.Clock
import VehicleLink.Proofs.Downlink.Deadlines
import VehicleLink.Proofs.Message.Truncation
import VehicleLink.Proofs.Relay
