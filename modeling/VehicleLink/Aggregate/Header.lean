import VehicleLink.LittleEndian
import VehicleLink.WireError

/-!
# Aggregate datagrams

The primary controller receives many frames in one datagram: a header of 26 bytes and then the
frames back to back. The header numbers the batch, tells the length of what follows, when the first
frame came in, when the batch went out and how long the relay waited for input meanwhile. All
numbers are little-endian.
-/

namespace VehicleLink.Aggregate

/-- The number of header bytes. -/
def headerLength : Nat := 26

/-- What is told about a batch. -/
structure Header where
  /-- The number of the batch, counted modulo `2 ^ 32`. -/
  sequence : UInt32
  /-- The number of bytes that follow the header. -/
  payloadLength : UInt16
  /-- When the first frame was received, in microseconds since the epoch. -/
  receivedMicros : UInt64
  /-- When the batch was sent, in microseconds since the epoch. -/
  sentMicros : UInt64
  /-- How long the relay waited for input since the batch before, in microseconds. -/
  blockedMicros : UInt32
deriving DecidableEq, Repr

namespace Header

/-- The bytes of a header, its fields side by side. -/
def encode (h : Header) : Bytes :=
  LittleEndian.encode 4 h.sequence.toNat ++ LittleEndian.encode 2 h.payloadLength.toNat
    ++ LittleEndian.encode 8 h.receivedMicros.toNat ++ LittleEndian.encode 8 h.sentMicros.toNat
    ++ LittleEndian.encode 4 h.blockedMicros.toNat

/-- Reads a header, with zeros for bytes that are missing. `decode` sees to it that none are. -/
def ofBytes (bytes : Bytes) : Header where
  sequence := UInt32.ofNat (LittleEndian.fieldAt bytes 0 4)
  payloadLength := UInt16.ofNat (LittleEndian.fieldAt bytes 4 2)
  receivedMicros := UInt64.ofNat (LittleEndian.fieldAt bytes 6 8)
  sentMicros := UInt64.ofNat (LittleEndian.fieldAt bytes 14 8)
  blockedMicros := UInt32.ofNat (LittleEndian.fieldAt bytes 22 4)

/-- Every header has the same length, whatever its fields say. -/
@[simp] theorem length_encode (h : Header) : h.encode.length = headerLength := by
  simp [encode, headerLength]

end Header

/-- Reads an aggregate datagram: its header and the frames behind it, back to back. -/
def decode (datagram : Bytes) : Except WireError (Header × Bytes) :=
  if datagram.length < headerLength then .error (.tooShort datagram.length)
  else
    let header := Header.ofBytes datagram
    let expected := headerLength + header.payloadLength.toNat
    if datagram.length = expected then .ok (header, datagram.drop headerLength)
    else .error (.badLength expected datagram.length)

end VehicleLink.Aggregate
