import VehicleLink.Frame.ChecksumSeed
import VehicleLink.Message.Kind
import VehicleLink.Message.KnownCommand

/-!
# Messages the relay reads

The relay reads three kinds of message: the vehicle's clock and the two forms of command. Fields
are little-endian at fixed offsets. A payload may be cut off behind its last non-zero byte, so
missing bytes read as zero, and bytes beyond the layout are ignored. Real numbers are kept as the
bits of their single-precision form, so that no reading changes them.

* `Message.decode?_append_zeros`, `isArmRequest_append_zeros`, `vehicleTime?_append_zeros` : cutting
  off trailing zeros changes no reading.
-/

namespace VehicleLink

/-- The bits of a single-precision number. -/
abbrev SingleBits := UInt32

/-- The bits of the single-precision number one. No other bit pattern compares equal to it. -/
def SingleBits.one : SingleBits := 0x3F800000

/-- What the vehicle tells about the time. -/
structure SystemTime where
  /-- Microseconds since the epoch, zero while the vehicle does not know the time. -/
  unixMicros : UInt64
  /-- Milliseconds since the vehicle was started. -/
  bootMillis : UInt32
deriving DecidableEq, Repr

/-- A command with seven free parameters. -/
structure CommandLong where
  command : UInt16
  params : List SingleBits
  targetSystem : UInt8
  targetComponent : UInt8
  /-- How often the command was sent before. -/
  confirmation : UInt8
deriving DecidableEq, Repr

/-- A command with four free parameters and a position. -/
structure CommandInt where
  command : UInt16
  frame : UInt8
  params : List SingleBits
  x : Int32
  y : Int32
  z : SingleBits
  /-- Whether the command is the current one. -/
  current : UInt8
  /-- Whether the next command follows by itself. -/
  autocontinue : UInt8
  targetSystem : UInt8
  targetComponent : UInt8
deriving DecidableEq, Repr

/-- A message, as far as the relay reads it. -/
inductive Message where
  | systemTime (m : SystemTime)
  | commandLong (m : CommandLong)
  | commandInt (m : CommandInt)
  /-- A message of another known kind, whose payload the relay does not look into. -/
  | other
deriving DecidableEq, Repr

namespace Message

open LittleEndian

/-- The greatest number of a known frame of reference for positions. -/
def maxReferenceFrame : UInt8 := 21

/-- `count` single-precision numbers from `offset` on. -/
def paramsAt (payload : Bytes) (offset count : Nat) : List SingleBits :=
  (List.range count).map fun i => UInt32.ofNat (fieldAt payload (offset + 4 * i) 4)

/-- The time in a payload. Every payload tells one, if only zero. -/
def readSystemTime (payload : Bytes) : SystemTime where
  unixMicros := UInt64.ofNat (fieldAt payload 0 8)
  bootMillis := UInt32.ofNat (fieldAt payload 8 4)

/-- The command with free parameters in a payload, unless its number is unknown. -/
def readCommandLong? (payload : Bytes) : Option CommandLong :=
  let command := UInt16.ofNat (fieldAt payload 28 2)
  if KnownCommand.isKnown command then
    some { command, params := paramsAt payload 0 7
           targetSystem := byteAt payload 30, targetComponent := byteAt payload 31
           confirmation := byteAt payload 32 }
  else none

/-- The command with a position in a payload, unless its number or its frame of reference is
unknown. -/
def readCommandInt? (payload : Bytes) : Option CommandInt :=
  let command := UInt16.ofNat (fieldAt payload 28 2)
  -- Wide fields come first, so that this one stands behind the addressee.
  let frame := byteAt payload 32
  if KnownCommand.isKnown command && frame ≤ maxReferenceFrame then
    some { command, frame, params := paramsAt payload 0 4
           x := (UInt32.ofNat (fieldAt payload 16 4)).toInt32
           y := (UInt32.ofNat (fieldAt payload 20 4)).toInt32
           z := UInt32.ofNat (fieldAt payload 24 4)
           current := byteAt payload 33, autocontinue := byteAt payload 34
           targetSystem := byteAt payload 30, targetComponent := byteAt payload 31 }
  else none

/-- The message in a payload, unless its kind is unknown or one of its fields is not readable. -/
def decode? (messageId : UInt32) (payload : Bytes) : Option Message :=
  if messageId = MessageKind.systemTime then some (.systemTime (readSystemTime payload))
  else if messageId = MessageKind.commandLong then (readCommandLong? payload).map .commandLong
  else if messageId = MessageKind.commandInt then (readCommandInt? payload).map .commandInt
  else if Frame.isKnownMessage messageId then some .other
  else none

/-- Whether a command with this first parameter asks to arm the motors. -/
def asksToArm (command : UInt16) (params : List SingleBits) : Bool :=
  command == KnownCommand.armDisarm && params.head? == some SingleBits.one

/-- Whether the message asks to arm the motors. A message that cannot be read does not. -/
def isArmRequest (messageId : UInt32) (payload : Bytes) : Bool :=
  match decode? messageId payload with
  | some (.commandLong m) => asksToArm m.command m.params
  | some (.commandInt m) => asksToArm m.command m.params
  | _ => false

/-- The vehicle's time in microseconds since the epoch, if the message tells it and it is known. -/
def vehicleTime? (messageId : UInt32) (payload : Bytes) : Option UInt64 :=
  match decode? messageId payload with
  | some (.systemTime m) => if m.unixMicros = 0 then none else some m.unixMicros
  | _ => none

/-- Every field is read with zeros beyond the end, and nothing else of the payload is read. -/
theorem decode?_append_zeros (messageId : UInt32) (payload : Bytes) (k : Nat) :
    decode? messageId (payload ++ List.replicate k 0) = decode? messageId payload := by
  simp only [decode?, readSystemTime, readCommandLong?, readCommandInt?, paramsAt,
    fieldAt_append_zeros, byteAt_append_zeros]

theorem isArmRequest_append_zeros (messageId : UInt32) (payload : Bytes) (k : Nat) :
    isArmRequest messageId (payload ++ List.replicate k 0) = isArmRequest messageId payload := by
  simp only [isArmRequest, decode?_append_zeros]

theorem vehicleTime?_append_zeros (messageId : UInt32) (payload : Bytes) (k : Nat) :
    vehicleTime? messageId (payload ++ List.replicate k 0) = vehicleTime? messageId payload := by
  simp only [vehicleTime?, decode?_append_zeros]

end Message

end VehicleLink
