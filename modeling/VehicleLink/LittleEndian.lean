/-!
# Little-endian fields

Numbers on the wire are stored least significant byte first. `encode` writes a number into a fixed
count of bytes, `decode` reads it back, and `fieldAt` reads one field of a payload whose trailing
zero bytes may have been cut off: a byte beyond the end reads as zero.

* `decode_encode`, `encode_decode` : the two are inverse on numbers that fit.
* `fieldAt_append_zeros` : cutting off or adding trailing zeros changes no field.
-/

namespace VehicleLink

/-- A byte string: a datagram, a frame, a payload or a piece of the serial stream. -/
abbrev Bytes := List UInt8

namespace LittleEndian

/-- The `width` least significant bytes of `n`, lowest first. -/
def encode : Nat → Nat → Bytes
  | 0, _ => []
  | width + 1, n => UInt8.ofNat (n % 256) :: encode width (n / 256)

/-- The number whose bytes these are, lowest first. -/
def decode : Bytes → Nat
  | [] => 0
  | b :: bs => b.toNat + 256 * decode bs

/-- How many numbers fit into `width` bytes. -/
def capacity : Nat → Nat
  | 0 => 1
  | width + 1 => 256 * capacity width

/-- The byte at `offset`, zero beyond the end. -/
def byteAt (payload : Bytes) (offset : Nat) : UInt8 :=
  payload.getD offset 0

/-- The number stored in `width` bytes from `offset` on, with zeros beyond the end. -/
def fieldAt (payload : Bytes) (offset : Nat) : Nat → Nat
  | 0 => 0
  | width + 1 => (byteAt payload offset).toNat + 256 * fieldAt payload (offset + 1) width

/-- A number takes exactly as many bytes as its field is wide, however small or large it is. -/
@[simp] theorem length_encode (width n : Nat) : (encode width n).length = width := by
  induction width generalizing n with
  | zero => rfl
  | succ width ih => simp [encode, ih]

/-- What is read back is the number that was written, less what did not fit into the field.
Induction on the width, along `encode` and `decode`. -/
theorem decode_encode (width n : Nat) : decode (encode width n) = n % capacity width := by
  induction width generalizing n with
  | zero => simp [encode, decode, capacity, Nat.mod_one]
  | succ width ih =>
    have hbyte : (UInt8.ofNat (n % 256)).toNat = n % 256 := by
      rw [UInt8.toNat_ofNat']
      exact Nat.mod_eq_of_lt (by simpa using Nat.mod_lt n (by decide))
    rw [encode, decode, ih, hbyte, capacity, Nat.mod_mul]

/-- A number that fits is read back unchanged. -/
theorem decode_encode_of_lt {width n : Nat} (h : n < capacity width) :
    decode (encode width n) = n := by
  rw [decode_encode, Nat.mod_eq_of_lt h]

/-- Some bytes never tell a number that does not fit into as many bytes. -/
theorem decode_lt (bytes : Bytes) : decode bytes < capacity bytes.length := by
  induction bytes with
  | nil => simp [decode, capacity]
  | cons b bs ih =>
    have hb : b.toNat < 256 := b.toNat_lt
    rw [decode, List.length_cons, capacity]
    omega

/-- Bytes are what is written for the number that is read from them. -/
theorem encode_decode (bytes : Bytes) : encode bytes.length (decode bytes) = bytes := by
  induction bytes with
  | nil => rfl
  | cons b bs ih =>
    have hb : b.toNat < 256 := b.toNat_lt
    -- The first byte is the remainder and the others are the quotient, as no byte reaches 256.
    have hlow : (b.toNat + 256 * decode bs) % 256 = b.toNat := by omega
    have hhigh : (b.toNat + 256 * decode bs) / 256 = decode bs := by omega
    rw [List.length_cons, decode, encode, hlow, hhigh, ih, UInt8.ofNat_toNat]

/-- A byte beyond the end reads as zero, so trailing zeros are not seen. -/
theorem byteAt_append_zeros (payload : Bytes) (k offset : Nat) :
    byteAt (payload ++ List.replicate k 0) offset = byteAt payload offset := by
  simp only [byteAt, List.getD_eq_getElem?_getD]
  by_cases h : offset < payload.length
  · rw [List.getElem?_append_left h]
  -- Beyond the payload it is one of the added zeros that is read, or no byte at all.
  · have hle : payload.length ≤ offset := Nat.le_of_not_lt h
    rw [List.getElem?_append_right hle, List.getElem?_eq_none hle, List.getElem?_replicate]
    split <;> rfl

/-- No field can tell whether zeros at the end of a payload were cut off or sent. -/
theorem fieldAt_append_zeros (payload : Bytes) (k offset width : Nat) :
    fieldAt (payload ++ List.replicate k 0) offset width = fieldAt payload offset width := by
  induction width generalizing offset with
  | zero => rfl
  | succ width ih => simp only [fieldAt, byteAt_append_zeros, ih]

/-- A field tells no number that does not fit into it, wherever it lies. -/
theorem fieldAt_lt (payload : Bytes) (offset width : Nat) :
    fieldAt payload offset width < capacity width := by
  induction width generalizing offset with
  | zero => simp [fieldAt, capacity]
  | succ width ih =>
    have hb : (byteAt payload offset).toNat < 256 := (byteAt payload offset).toNat_lt
    have := ih (offset + 1)
    rw [fieldAt, capacity]
    omega

end LittleEndian

end VehicleLink
