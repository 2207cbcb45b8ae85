import VehicleLink.LittleEndian
import VehicleLink.WireError

/-!
# Frame headers

A MAVLink frame opens with a marker byte that tells its version. Version 1 has a header of six
bytes and a one-byte message id; version 2 has a header of ten bytes, a three-byte id and flags,
of which the lowest announces a signature at the end of the frame. The header alone fixes the
length of the whole frame.
-/

namespace VehicleLink

/-- The version of the frame format, told by the first byte of a frame. -/
inductive Marker where
  | v1
  | v2
deriving DecidableEq, Repr

namespace Marker

/-- The byte that starts frames of the version. -/
def toByte : Marker → UInt8
  | v1 => 0xFE
  | v2 => 0xFD

/-- The version that a byte announces, if it starts a frame at all. -/
def ofByte? (b : UInt8) : Option Marker :=
  if b = 0xFD then some v2 else if b = 0xFE then some v1 else none

/-- The number of header bytes, the marker included. -/
def headerLength : Marker → Nat
  | v1 => 6
  | v2 => 10

/-- Each version has one byte, and each of the two bytes one version. -/
theorem ofByte?_eq_some_iff {b : UInt8} {m : Marker} : ofByte? b = some m ↔ b = m.toByte := by
  by_cases hv2 : b = 0xFD
  · subst hv2
    cases m <;> decide
  · by_cases hv1 : b = 0xFE
    · subst hv1
      cases m <;> decide
    · rw [ofByte?, if_neg hv2, if_neg hv1]
      cases m with
      | v1 => exact ⟨fun h => (nomatch h), fun h => absurd h hv1⟩
      | v2 => exact ⟨fun h => (nomatch h), fun h => absurd h hv2⟩

@[simp] theorem ofByte?_toByte (m : Marker) : ofByte? m.toByte = some m :=
  ofByte?_eq_some_iff.2 rfl

end Marker

namespace Frame

/-- The number of checksum bytes, which follow the payload. -/
def checksumLength : Nat := 2

/-- The number of signature bytes, which follow the checksum of a signed frame. -/
def signatureLength : Nat := 13

/-- The bit of the incompatibility flags that announces a signature. -/
def signedFlag : UInt8 := 0x01

/-- The greatest payload length that the length byte can tell. -/
def maxPayloadLength : Nat := 255

/-- The greatest length of a frame: a signed one of version 2 with a full payload. -/
def maxLength : Nat := 280

/-- What the first bytes of a frame say. -/
structure Header where
  marker : Marker
  payloadLength : UInt8
  /-- The incompatibility flags, zero in version 1. -/
  incompatFlags : UInt8
  /-- The sequence number that the sender counts up from frame to frame. -/
  sequence : UInt8
  system : UInt8
  component : UInt8
  messageId : UInt32
deriving DecidableEq, Repr

namespace Header

/-- Reads the header at the start of `bytes`. The marker is judged before the length. -/
def ofBytes (bytes : Bytes) : Except WireError Header :=
  match bytes with
  | [] => .error (.tooShort 0)
  | first :: rest =>
    match Marker.ofByte? first with
    | none => .error (.badMarker first)
    | some .v2 =>
      match rest with
      -- What is skipped are the compatibility flags, which nobody has to know.
      | length :: incompat :: _ :: seq :: sys :: comp :: id₀ :: id₁ :: id₂ :: _ =>
        .ok { marker := .v2, payloadLength := length, incompatFlags := incompat, sequence := seq,
              system := sys, component := comp,
              messageId := UInt32.ofNat (LittleEndian.decode [id₀, id₁, id₂]) }
      | _ => .error (.tooShort bytes.length)
    | some .v1 =>
      match rest with
      | length :: seq :: sys :: comp :: id :: _ =>
        .ok { marker := .v1, payloadLength := length, incompatFlags := 0, sequence := seq,
              system := sys, component := comp, messageId := id.toUInt32 }
      | _ => .error (.tooShort bytes.length)

/-- Whether a signature closes the frame. Only version 2 knows signatures. -/
def isSigned (h : Header) : Bool :=
  match h.marker with
  | .v1 => false
  | .v2 => h.incompatFlags &&& signedFlag != 0

/-- The offset of the payload, which follows the header at once. -/
def payloadStart (h : Header) : Nat := h.marker.headerLength

/-- The offset just past the payload. -/
def payloadEnd (h : Header) : Nat := h.payloadStart + h.payloadLength.toNat

/-- The length of the whole frame, as the header alone fixes it. -/
def frameLength (h : Header) : Nat :=
  h.payloadEnd + checksumLength + if h.isSigned then signatureLength else 0

/-- The payload of a frame with this header. -/
def payload (h : Header) (frame : Bytes) : Bytes :=
  (frame.drop h.payloadStart).take h.payloadLength.toNat

end Header

/-- Reads a datagram that has to be one whole frame: neither shorter nor longer. -/
def inspect (datagram : Bytes) : Except WireError Header :=
  match Header.ofBytes datagram with
  | .error e => .error e
  | .ok h =>
    if datagram.length = h.frameLength then .ok h
    else .error (.badLength h.frameLength datagram.length)

end Frame

end VehicleLink
