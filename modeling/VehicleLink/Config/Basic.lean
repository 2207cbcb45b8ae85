import VehicleLink.Aggregate.Header
import VehicleLink.Address.Basic
import VehicleLink.Message.Kind
import VehicleLink.Time

/-!
# Configuration

Everything that can be set, with its default. Spans are given in milliseconds or microseconds and
buffer sizes in bytes, as machine words.
-/

namespace VehicleLink

/-- All settings. A configuration that says nothing is one of defaults. -/
structure Config where
  serialDevice : String := "/dev/ttyAMA0"
  baudRate : UInt32 := 921600
  hardwareFlowControl : Bool := false
  /-- The size of the serial line's output buffer. -/
  serialTxBuffer : UInt64 := 4096
  /-- How long a datagram may wait for room in that buffer. -/
  serialStallTimeoutMs : UInt64 := 1000
  /-- The pause between two looks at that buffer. -/
  serialPollIntervalUs : UInt64 := 500
  bindAddress : SocketAddress := .v4 ⟨0, 0, 0, 0⟩ 14550
  primaryAddress : SocketAddress := .v4 ⟨10, 0, 0, 1⟩ 14550
  injectAddress : SocketAddress := .v4 ⟨127, 0, 0, 1⟩ 14650
  -- A client that says nothing for longer than this is forgotten.
  clientTimeoutMs : UInt64 := 10000
  /-- The longest span between two purges of silent clients. -/
  purgeIntervalMs : UInt64 := 1000
  /-- How long the relay waits for a datagram. -/
  recvTimeoutMs : UInt64 := 100
  /-- The greatest payload of an aggregate. -/
  aggregateMaxPayload : UInt64 := 1024
  /-- The longest span between two aggregates. -/
  flushIntervalMs : UInt64 := 100
  statsIntervalMs : UInt64 := 10000
  /-- The least span between two reports of failures to send. -/
  sendFailureLogIntervalMs : UInt64 := 5000
  setSystemClock : Bool := false
  /-- The path whose presence locks the safety gate. -/
  rcLockFile : Option String := none
  downlinkPriority : UInt8 := 40
  uplinkPriority : UInt8 := 30
  /-- The message kinds that the primary controller does not get. -/
  bulkTransferIds : List UInt32 := MessageKind.bulk
deriving DecidableEq

namespace Config

/-- The longest silence of a client that stays registered. -/
def clientTimeout (c : Config) : Nat := Duration.ofMillis c.clientTimeoutMs.toNat

/-- The span after which silent clients are looked for at the latest. -/
def purgeInterval (c : Config) : Nat := Duration.ofMillis c.purgeIntervalMs.toNat

/-- How long one wait for a datagram takes at most. -/
def recvTimeout (c : Config) : Nat := Duration.ofMillis c.recvTimeoutMs.toNat

/-- The span between two deadlines for sending. -/
def flushInterval (c : Config) : Nat := Duration.ofMillis c.flushIntervalMs.toNat

/-- The span between two reports. -/
def statsInterval (c : Config) : Nat := Duration.ofMillis c.statsIntervalMs.toNat

/-- How long a datagram waits for room on the serial line at most. -/
def serialStallTimeout (c : Config) : Nat := Duration.ofMillis c.serialStallTimeoutMs.toNat

/-- The pause between two looks at the serial line. -/
def serialPollInterval (c : Config) : Nat := Duration.ofMicros c.serialPollIntervalUs.toNat

/-- The least span between two reports of failures to send. -/
def sendFailureLogInterval (c : Config) : Nat :=
  Duration.ofMillis c.sendFailureLogIntervalMs.toNat

end Config

end VehicleLink
