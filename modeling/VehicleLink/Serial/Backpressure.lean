import VehicleLink.Time

/-!
# Waiting for room on the serial line

The serial line takes bytes more slowly than the network brings them. Before a datagram is written,
the relay asks how many bytes still wait in the output buffer until there is room for it, and gives
up after a while. What the line answers, and how much time has passed then, is an input.
-/

namespace VehicleLink

/-- What the line answers to the question how many bytes wait. -/
inductive QueueReading where
  | bytes (queued : Nat)
  | failed (reason : String)
deriving DecidableEq, Repr

/-- One look at the output buffer. -/
structure QueuePoll where
  reading : QueueReading
  /-- The time since the first look, read after the answer. -/
  elapsed : Nat
deriving DecidableEq, Repr

/-- How waiting ends. -/
inductive WaitOutcome where
  /-- There is room; `waited` tells whether it took more than one look. -/
  | ready (waited : Bool)
  | failed (reason : String)
  /-- There was no room for too long. -/
  | stalled (waited : Nat) (queued : Nat)
  /-- There was no room so far, and the relay is still waiting. -/
  | pending
deriving DecidableEq, Repr

/-- How the relay waits for room: the size of the buffer and the longest wait. -/
structure Backpressure where
  capacity : Nat
  timeout : Nat
deriving DecidableEq, Repr

namespace Backpressure

/-- Whether `needed` bytes fit behind `queued` waiting ones. -/
def hasRoom (b : Backpressure) (queued needed : Nat) : Bool :=
  -- More may wait than the buffer is said to hold. Then there is no room.
  needed ≤ b.capacity - queued

/-- Looks at the output buffer until `needed` bytes fit, and tells how that ended and what the line
answered. `waited` tells whether there was a look before. -/
def waitFrom (b : Backpressure) (needed : Nat) (waited : Bool) :
    List QueuePoll → WaitOutcome × List QueueReading
  | [] => (.pending, [])
  | ⟨.failed reason, _⟩ :: _ => (.failed reason, [.failed reason])
  | ⟨.bytes queued, elapsed⟩ :: polls =>
    -- Room is room, also when the time is up.
    if b.hasRoom queued needed then (.ready waited, [.bytes queued])
    else if b.timeout ≤ elapsed then (.stalled elapsed queued, [.bytes queued])
    else
      let (outcome, readings) := b.waitFrom needed true polls
      (outcome, .bytes queued :: readings)

/-- Waits for room for so many bytes, with a first look to begin with. -/
def wait (b : Backpressure) (needed : Nat) (polls : List QueuePoll) :
    WaitOutcome × List QueueReading :=
  b.waitFrom needed false polls

end Backpressure

end VehicleLink
