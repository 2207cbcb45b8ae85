import VehicleLink.Aggregate.Header
import VehicleLink.Frame.Header

/-!
# Collecting frames for the primary controller

An `Aggregate` holds whole frames until they are sent as one datagram. It refuses a frame that it
has no room for and is then unchanged. It counts as nearly full when the longest possible frame may
not fit any more.
-/

namespace VehicleLink

/-- The sum of two words, the greatest word if it does not fit. -/
def saturatingAdd (a b : UInt64) : UInt64 :=
  UInt64.ofNat (min (a.toNat + b.toNat) (UInt64.size - 1))

/-- Frames that wait to be sent together. -/
structure Aggregate where
  /-- The greatest number of frame bytes. -/
  limit : Nat
  /-- The waiting frames in the order of their arrival. -/
  frames : List Bytes := []
  size : Nat := 0
  /-- When the first waiting frame was received, in microseconds since the epoch. -/
  receivedMicros : UInt64 := 0
  /-- How long the relay waited for input since the last batch, in microseconds. -/
  blockedMicros : UInt64 := 0
deriving DecidableEq, Repr

namespace Aggregate

/-- The greatest payload length that the header can tell. -/
def maxLimit : Nat := 65535

/-- An aggregate without frames that takes up to `limit` bytes, but no more than the header can
tell. -/
def empty (limit : Nat) : Aggregate where
  limit := min limit maxLimit

/-- The waiting frames back to back. -/
def payload (a : Aggregate) : Bytes := a.frames.flatten

/-- The bytes for which there is room. -/
def remaining (a : Aggregate) : Nat := a.limit - a.size

/-- Whether no frame waits. A frame without bytes waits like any other. -/
def isEmpty (a : Aggregate) : Bool := a.frames.isEmpty

/-- Whether the longest possible frame may not fit any more. -/
def isNearlyFull (a : Aggregate) : Bool := a.remaining < Frame.maxLength

/-- Adds a frame behind the others. One that is too long for any batch is refused for that reason,
whatever waits. -/
def append (a : Aggregate) (frame : Bytes) (receivedMicros : UInt64) : Except WireError Aggregate :=
  -- Beyond the limit it would not fit into an empty aggregate either.
  if a.limit < frame.length then .error (.frameTooLarge frame.length a.limit)
  else if a.remaining < frame.length then .error (.aggregateOverflow frame.length a.remaining)
  else .ok { a with
    frames := a.frames ++ [frame]
    size := a.size + frame.length
    receivedMicros := if a.isEmpty then receivedMicros else a.receivedMicros }

/-- Adds to the time that the relay has waited for input. -/
def addBlocked (a : Aggregate) (micros : UInt64) : Aggregate :=
  { a with blockedMicros := saturatingAdd a.blockedMicros micros }

/-- The header of a batch with the waiting frames. -/
def header (a : Aggregate) (sequence : UInt32) (sentMicros : UInt64) : Header where
  sequence := sequence
  -- No limit is beyond what a word of 16 bits can tell.
  payloadLength := UInt16.ofNat a.size
  receivedMicros := a.receivedMicros
  sentMicros := sentMicros
  blockedMicros := UInt32.ofNat (min a.blockedMicros.toNat (UInt32.size - 1))

/-- The datagram that carries the waiting frames, and the aggregate without them. Without a waiting
frame there is none, and the waiting time is kept for the next batch. -/
def take? (a : Aggregate) (sequence : UInt32) (sentMicros : UInt64) : Option (Bytes × Aggregate) :=
  if a.isEmpty then none
  -- The times start anew with the next batch.
  else some ((a.header sequence sentMicros).encode ++ a.payload, { limit := a.limit })

end Aggregate

end VehicleLink
