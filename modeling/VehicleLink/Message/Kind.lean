import VehicleLink.LittleEndian

/-!
# Message kinds the relay knows by number

The few message ids that the relay treats specially. All other kinds pass through it unread.
-/

namespace VehicleLink.MessageKind

/-- The vehicle's clock. -/
def systemTime : UInt32 := 2

/-- A command with a position. -/
def commandInt : UInt32 := 75

/-- A command with free parameters. -/
def commandLong : UInt32 := 76

/-- A piece of a file. -/
def fileTransfer : UInt32 := 110

/-- A piece of a stored log. -/
def logData : UInt32 := 120

/-- A piece of an image. -/
def encapsulatedData : UInt32 := 131

/-- A piece of a streamed log. -/
def loggingData : UInt32 := 266

/-- A piece of a streamed log that has to be acknowledged. -/
def loggingDataAcked : UInt32 := 267

/-- The kinds that carry bulk data: too much of it for the link to the primary controller. -/
def bulk : List UInt32 :=
  [fileTransfer, logData, encapsulatedData, loggingData, loggingDataAcked]

/-- Whether messages of this kind carry bulk data, as long as the configuration says nothing
else. -/
def isBulk (messageId : UInt32) : Bool := bulk.contains messageId

end VehicleLink.MessageKind
