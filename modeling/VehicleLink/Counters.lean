/-!
# Counters

What the two directions of the relay count. Counters of one kind add up field by field. `named`
lists them under the names by which they are known outside, and `ofNamed` reads such a list. The
counts are natural numbers: no relay runs long enough to fill a counter of 64 bits.
-/

namespace VehicleLink

/-- What happened to datagrams on their way to the vehicle. -/
structure UplinkCounters where
  datagrams : Nat := 0
  bytes : Nat := 0
  /-- Datagrams that ended before their header did. -/
  short : Nat := 0
  /-- Datagrams that started with no marker. -/
  badMarker : Nat := 0
  /-- Datagrams of another length than announced. -/
  badLength : Nat := 0
  /-- Requests to arm that the safety gate held back. -/
  armBlocked : Nat := 0
  /-- Datagrams that had to wait for room on the serial line. -/
  serialWaits : Nat := 0
deriving DecidableEq, Repr

namespace UplinkCounters

/-- Datagrams that were no frame. -/
def malformed (c : UplinkCounters) : Nat := c.short + c.badMarker + c.badLength

/-- Counters add up field by field. -/
instance : Add UplinkCounters where
  add a b :=
    { datagrams := a.datagrams + b.datagrams, bytes := a.bytes + b.bytes
      short := a.short + b.short, badMarker := a.badMarker + b.badMarker
      badLength := a.badLength + b.badLength, armBlocked := a.armBlocked + b.armBlocked
      serialWaits := a.serialWaits + b.serialWaits }

/-- The counters under their names in a report. -/
def named (c : UplinkCounters) : List (String × Nat) :=
  [("datagrams", c.datagrams), ("bytes", c.bytes), ("short", c.short), ("bad_marker", c.badMarker),
   ("bad_length", c.badLength), ("arm_blocked", c.armBlocked), ("serial_waits", c.serialWaits)]

/-- The counters with the given values, zero where none is given. -/
def ofNamed (values : List (String × Nat)) : UplinkCounters :=
  let value name := (values.lookup name).getD 0
  { datagrams := value "datagrams", bytes := value "bytes", short := value "short"
    badMarker := value "bad_marker", badLength := value "bad_length"
    armBlocked := value "arm_blocked", serialWaits := value "serial_waits" }

/-- No counter is left out of the list or called by two names. -/
theorem ofNamed_named (c : UplinkCounters) : ofNamed c.named = c := rfl

end UplinkCounters

/-- What happened to the vehicle's bytes on their way to the network. -/
structure DownlinkCounters where
  frames : Nat := 0
  serialBytes : Nat := 0
  checksumFailed : Nat := 0
  /-- Noise bytes between frames. -/
  discardedBytes : Nat := 0
  /-- Frames of bulk data, which the primary controller does not get. -/
  bulkFrames : Nat := 0
  aggregatesSent : Nat := 0
  /-- Bytes of the aggregates, headers included. -/
  aggregateBytes : Nat := 0
  fanoutDatagrams : Nat := 0
  /-- Datagrams received for injection. -/
  injected : Nat := 0
  sendFailures : Nat := 0
deriving DecidableEq, Repr

namespace DownlinkCounters

/-- Counters add up field by field. -/
instance : Add DownlinkCounters where
  add a b :=
    { frames := a.frames + b.frames, serialBytes := a.serialBytes + b.serialBytes
      checksumFailed := a.checksumFailed + b.checksumFailed
      discardedBytes := a.discardedBytes + b.discardedBytes
      bulkFrames := a.bulkFrames + b.bulkFrames
      aggregatesSent := a.aggregatesSent + b.aggregatesSent
      aggregateBytes := a.aggregateBytes + b.aggregateBytes
      fanoutDatagrams := a.fanoutDatagrams + b.fanoutDatagrams
      injected := a.injected + b.injected, sendFailures := a.sendFailures + b.sendFailures }

/-- The counters under their names in a report. -/
def named (c : DownlinkCounters) : List (String × Nat) :=
  [("frames", c.frames), ("serial_bytes", c.serialBytes), ("checksum_failed", c.checksumFailed),
   ("discarded_bytes", c.discardedBytes), ("bulk_frames", c.bulkFrames),
   ("aggregates_sent", c.aggregatesSent), ("aggregate_bytes", c.aggregateBytes),
   ("fanout_datagrams", c.fanoutDatagrams), ("injected", c.injected),
   ("send_failures", c.sendFailures)]

/-- The counters with the given values, zero where none is given. -/
def ofNamed (values : List (String × Nat)) : DownlinkCounters :=
  let value name := (values.lookup name).getD 0
  { frames := value "frames", serialBytes := value "serial_bytes"
    checksumFailed := value "checksum_failed", discardedBytes := value "discarded_bytes"
    bulkFrames := value "bulk_frames", aggregatesSent := value "aggregates_sent"
    aggregateBytes := value "aggregate_bytes", fanoutDatagrams := value "fanout_datagrams"
    injected := value "injected", sendFailures := value "send_failures" }

/-- No counter is left out of the list or called by two names. -/
theorem ofNamed_named (c : DownlinkCounters) : ofNamed c.named = c := rfl

/-- Nothing happened. -/
def isZero (c : DownlinkCounters) : Bool := c == {}

end DownlinkCounters

end VehicleLink
