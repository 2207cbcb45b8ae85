import VehicleLink.LittleEndian
import VehicleLink.Serial.Backpressure

/-!
# Talking to the serial line

What the relay does to the serial line on the way to the vehicle, and what the line answers.
-/

namespace VehicleLink

/-- What was done to the serial line. -/
inductive SerialEvent where
  /-- It was asked how many bytes wait in the output buffer. -/
  | queried (reading : QueueReading)
  | wrote (bytes : Bytes)
  | failedToWrite (bytes : Bytes)
deriving DecidableEq, Repr

/-- The bytes that went out, if any did. -/
def SerialEvent.written? : SerialEvent → Option Bytes
  | wrote bytes => some bytes
  | _ => none

/-- What the serial line answers while one datagram is treated. -/
structure LineReply where
  polls : List QueuePoll
  /-- Why a write fails, if it does. -/
  writeFailure : Option String := none
deriving DecidableEq, Repr

end VehicleLink
