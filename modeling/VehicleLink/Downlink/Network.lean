import VehicleLink.Directory.Basic
import VehicleLink.LittleEndian

/-!
# The network as the downlink worker sees it

Whether a datagram is taken, what the wall clock shows and who has registered meanwhile is decided
outside. A `Network` holds these answers for a whole run; they may depend on how much the worker has
done before.
-/

namespace VehicleLink

/-- What becomes of a datagram that is handed to the socket. -/
inductive Delivery where
  | delivered
  /-- It was refused; the clock is read when that is noted. -/
  | failed (reason : String) (now : Nat)
deriving DecidableEq, Repr

/-- A datagram that was handed to the socket. -/
structure SendAttempt where
  target : SocketAddress
  bytes : Bytes
  delivery : Delivery
deriving DecidableEq, Repr

/-- The answers of the world outside to the downlink worker. -/
structure Network where
  /-- What becomes of a datagram for the given target, when `n` were handed over before. -/
  delivery : Nat → SocketAddress → Delivery
  /-- The wall clock in microseconds since the epoch, when `n` datagrams were handed over before. -/
  wallMicros : Nat → UInt64
  /-- What others do to the directory before the worker looks at it for the message with number
  `n`. -/
  meanwhile : Nat → List Directory.Step := fun _ => []

end VehicleLink
