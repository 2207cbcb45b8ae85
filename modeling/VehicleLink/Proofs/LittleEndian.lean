import VehicleLink.LittleEndian

/-!
# Fields inside longer byte strings

A field that was written somewhere in a byte string is read back from its offset, whatever stands
before and behind it (`fieldAt_encode`), and the number that is read from a field, written again,
gives the bytes of the field (`encode_fieldAt`). What is read are the bytes of the field and no
others (`fieldAt_eq_decode`).
-/

namespace VehicleLink.LittleEndian

theorem byteAt_append_cons (front : Bytes) (b : UInt8) (back : Bytes) :
    byteAt (front ++ b :: back) front.length = b := by
  unfold byteAt
  rw [List.getD_eq_getElem?_getD, List.getElem?_append_right (Nat.le_refl _), Nat.sub_self]
  rfl

/-- The number in a piece of a byte string is the number that the piece itself stands for. -/
theorem fieldAt_append (front piece back : Bytes) :
    fieldAt (front ++ (piece ++ back)) front.length piece.length = decode piece := by
  induction piece generalizing front with
  | nil => rfl
  | cons b bs ih =>
    -- The first byte goes over to the front, so that the other bytes are a piece of their own.
    have hfront : front ++ (b :: bs ++ back) = (front ++ [b]) ++ (bs ++ back) := by
      rw [List.append_assoc]
      rfl
    have hrest : fieldAt (front ++ (b :: bs ++ back)) (front.length + 1) bs.length = decode bs := by
      rw [hfront]
      have hlength : front.length + 1 = (front ++ [b]).length := by simp
      rw [hlength]
      exact ih (front ++ [b])
    have hbyte : byteAt (front ++ (b :: bs ++ back)) front.length = b :=
      byteAt_append_cons front b (bs ++ back)
    rw [List.length_cons, fieldAt, hrest, hbyte, decode]

/-- A number that fits into a field is read back from where it was written. -/
theorem fieldAt_encode (width : Nat) {n : Nat} (h : n < capacity width) (front back : Bytes) :
    fieldAt (front ++ (encode width n ++ back)) front.length width = n := by
  have hfield := fieldAt_append front (encode width n) back
  rw [length_encode] at hfield
  rw [hfield, decode_encode_of_lt h]

/-- A field is read from its own bytes, with zeros for those beyond the end. -/
theorem fieldAt_eq_decode (payload : Bytes) (offset width : Nat) :
    fieldAt payload offset width =
      decode (((payload ++ List.replicate (offset + width) 0).drop offset).take width) := by
  -- With enough zeros behind it the payload holds the field as a piece.
  let padded := payload ++ List.replicate (offset + width) 0
  have hlength : padded.length = payload.length + (offset + width) := by
    rw [List.length_append, List.length_replicate]
  have hfront : (padded.take offset).length = offset := by
    rw [List.length_take]
    omega
  have hpiece : ((padded.drop offset).take width).length = width := by
    rw [List.length_take, List.length_drop]
    omega
  have hfield := fieldAt_append (padded.take offset) ((padded.drop offset).take width)
    ((padded.drop offset).drop width)
  rw [List.take_append_drop, List.take_append_drop, hfront, hpiece] at hfield
  rw [← hfield, fieldAt_append_zeros]

/-- Writing the number that a field holds gives back the bytes of the field. -/
theorem encode_fieldAt {bytes : Bytes} {offset width : Nat} (h : offset + width ≤ bytes.length) :
    encode width (fieldAt bytes offset width) = (bytes.drop offset).take width := by
  have hfront : (bytes.take offset).length = offset := by
    rw [List.length_take]
    omega
  have hpiece : ((bytes.drop offset).take width).length = width := by
    rw [List.length_take, List.length_drop]
    omega
  have hfield := fieldAt_append (bytes.take offset) ((bytes.drop offset).take width)
    ((bytes.drop offset).drop width)
  rw [List.take_append_drop, List.take_append_drop, hfront, hpiece] at hfield
  have hbytes := encode_decode ((bytes.drop offset).take width)
  rwa [hpiece, ← hfield] at hbytes

/-! ## Byte strings that are cut off -/

theorem byteAt_take {offset n : Nat} (h : offset < n) (payload : Bytes) :
    byteAt (payload.take n) offset = byteAt payload offset := by
  simp only [byteAt, List.getD_eq_getElem?_getD, List.getElem?_take_of_lt h]

/-- A field is not changed by what is cut off behind it. -/
theorem fieldAt_take {offset width n : Nat} (h : offset + width ≤ n) (payload : Bytes) :
    fieldAt (payload.take n) offset width = fieldAt payload offset width := by
  induction width generalizing offset with
  | zero => rfl
  | succ width ih => rw [fieldAt, fieldAt, byteAt_take (by omega), ih (by omega)]

end VehicleLink.LittleEndian
