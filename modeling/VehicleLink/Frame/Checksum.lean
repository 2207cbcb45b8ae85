import VehicleLink.Frame.Header
import VehicleLink.Frame.ChecksumSeed

/-!
# The frame checksum

A 16-bit cyclic redundancy check over the frame from its second byte to the end of the payload and
then over the seed byte of the message id. The register starts at all ones, takes bytes lowest bit
first, and is stored without a final inversion (the parameters known as CRC-16/MCRF4XX).
-/

namespace VehicleLink

namespace Checksum

/-- The register before the first byte. -/
def initial : UInt16 := 0xFFFF

/-- What the low byte of the register contributes after it has been shifted out: eight steps of the
division by the reflected polynomial `0x8408` at once. -/
def feedback (low : UInt8) : UInt16 :=
  let folded := low ^^^ (low <<< 4)
  (folded.toUInt16 <<< 8) ^^^ (folded.toUInt16 <<< 3) ^^^ (folded >>> 4).toUInt16

/-- Takes one byte into the register. -/
def step (register : UInt16) (byte : UInt8) : UInt16 :=
  (register >>> 8) ^^^ feedback (register.toUInt8 ^^^ byte)

/-- Takes some bytes into the register, one after the other. -/
def update (register : UInt16) (bytes : Bytes) : UInt16 :=
  bytes.foldl step register

@[simp] theorem update_cons (register : UInt16) (byte : UInt8) (bytes : Bytes) :
    update register (byte :: bytes) = update (step register byte) bytes := rfl

/-- The register after some bytes is all that is left of them. -/
theorem update_append (register : UInt16) (bytes more : Bytes) :
    update register (bytes ++ more) = update (update register bytes) more :=
  List.foldl_append

end Checksum

namespace Frame

/-- The checksum of a frame whose bytes between marker and checksum are `body`. -/
def checksum (body : Bytes) (messageId : UInt32) : UInt16 :=
  Checksum.step (Checksum.update Checksum.initial body) (checksumSeed messageId)

/-- The bytes that the checksum covers: from behind the marker to the end of the payload. -/
def Header.checkedBytes (h : Header) (frame : Bytes) : Bytes :=
  (frame.take h.payloadEnd).drop 1

/-- Whether `frame`, taken to have this header, carries the right checksum. A frame that ends before
its checksum does not. -/
def Header.checksumMatches (h : Header) (frame : Bytes) : Bool :=
  match (frame.drop h.payloadEnd).take checksumLength with
  | [low, high] =>
    (checksum (h.checkedBytes frame) h.messageId).toNat = LittleEndian.decode [low, high]
  | _ => false

/-- An unsigned frame of version 2. Of the payload at most 255 bytes are taken and of the id three
bytes are written; the checksum is seeded by the whole id. -/
def encode (sequence system component : UInt8) (messageId : UInt32) (payload : Bytes) : Bytes :=
  let payload := payload.take maxPayloadLength
  -- No flag is set, so that no signature follows.
  let body : Bytes :=
    [UInt8.ofNat payload.length, 0, 0, sequence, system, component]
      ++ LittleEndian.encode 3 messageId.toNat ++ payload
  Marker.v2.toByte :: body ++ LittleEndian.encode checksumLength (checksum body messageId).toNat

end Frame

end VehicleLink
