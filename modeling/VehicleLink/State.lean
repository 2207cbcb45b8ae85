import VehicleLink.Counters
import VehicleLink.Directory.Basic
import VehicleLink.Streams

/-!
# What the workers share

The directory, the followed streams and the counters, as the uplink worker, the downlink worker and
the statistics reporter see them.
-/

namespace VehicleLink

/-- All that more than one part of the relay reads or writes. -/
structure State where
  directory : Directory
  streams : Streams := ∅
  /-- What the uplink worker has counted since the last report. -/
  uplink : UplinkCounters := {}
  /-- What the downlink worker has counted since the last report. -/
  downlink : DownlinkCounters := {}
deriving DecidableEq

namespace State

/-- The state of a relay that has heard nothing yet. -/
def empty (primary : SocketAddress) (clientTimeout : Nat) : State where
  directory := .empty primary clientTimeout

/-- The primary controller, which nothing changes. -/
def primary (s : State) : SocketAddress := s.directory.registry.primary

end State

end VehicleLink
