import VehicleLink.Aggregate.Header
import VehicleLink.Proofs.LittleEndian

/-!
# Reading back an aggregate datagram

The header that was written in front of some bytes is read back whole (`ofBytes_encode_append`), and
the header that is read from a datagram, written again, gives its first 26 bytes (`encode_ofBytes`).
The fields stand side by side and fill the header, so that writing and reading are inverse in both
directions: a datagram is read exactly if it was put together from the header and the payload that
are read from it (`decode_eq_ok_iff`).
-/

namespace VehicleLink.Aggregate

open LittleEndian

/-- Each field is read back from its offset, because the fields before it have fixed widths. -/
theorem ofBytes_encode_append (h : Header) (payload : Bytes) :
    Header.ofBytes (h.encode ++ payload) = h := by
  obtain ⟨sequence, payloadLength, receivedMicros, sentMicros, blockedMicros⟩ := h
  -- Each field stands behind those before it, whose lengths give its offset.
  simp only [Header.encode, List.append_assoc]
  have hsequence := fieldAt_encode 4 sequence.toNat_lt []
  have hlength := fieldAt_encode 2 payloadLength.toNat_lt (encode 4 sequence.toNat)
  have hreceived := fieldAt_encode 8 receivedMicros.toNat_lt
    (encode 4 sequence.toNat ++ encode 2 payloadLength.toNat)
  have hsent := fieldAt_encode 8 sentMicros.toNat_lt
    (encode 4 sequence.toNat ++ encode 2 payloadLength.toNat ++ encode 8 receivedMicros.toNat)
  have hblocked := fieldAt_encode 4 blockedMicros.toNat_lt
    (encode 4 sequence.toNat ++ encode 2 payloadLength.toNat ++ encode 8 receivedMicros.toNat
      ++ encode 8 sentMicros.toNat)
  simp only [List.append_assoc, List.length_append, length_encode, List.nil_append,
    List.length_nil] at hsequence hlength hreceived hsent hblocked
  simp only [Header.ofBytes, hsequence, hlength, hreceived, hsent, hblocked, UInt32.ofNat_toNat,
    UInt16.ofNat_toNat, UInt64.ofNat_toNat]

/-- Behind a header there have to be as many bytes as it announces. -/
theorem decode_encode_append_eq (h : Header) (payload : Bytes) :
    decode (h.encode ++ payload) =
      if payload.length = h.payloadLength.toNat then .ok (h, payload)
      else .error (.badLength (headerLength + h.payloadLength.toNat)
        (headerLength + payload.length)) := by
  have htotal : (h.encode ++ payload).length = headerLength + payload.length := by
    rw [List.length_append, Header.length_encode]
  -- There is a whole header, so that only the length of the rest can be wrong.
  have hlong : ¬ (h.encode ++ payload).length < headerLength := by omega
  have hpayload : (h.encode ++ payload).drop headerLength = payload := by
    rw [← h.length_encode, List.drop_left]
  unfold decode
  rw [if_neg hlong]
  simp only [ofBytes_encode_append, htotal, hpayload, Nat.add_left_cancel_iff]

/-- A payload of the announced length is read back with its header. -/
theorem decode_encode_append {h : Header} {payload : Bytes}
    (hlength : payload.length = h.payloadLength.toNat) :
    decode (h.encode ++ payload) = .ok (h, payload) := by
  rw [decode_encode_append_eq, if_pos hlength]

/-- Every byte of a header belongs to a field, and the fields stand side by side: writing what was
read gives back the first 26 bytes. -/
theorem encode_ofBytes {bytes : Bytes} (h : headerLength ≤ bytes.length) :
    (Header.ofBytes bytes).encode = bytes.take headerLength := by
  have hlength : 26 ≤ bytes.length := h
  have hsequence : encode 4 (fieldAt bytes 0 4) = bytes.take 4 := encode_fieldAt (by omega)
  have hpayload : encode 2 (fieldAt bytes 4 2) = (bytes.drop 4).take 2 :=
    encode_fieldAt (by omega)
  have hreceived : encode 8 (fieldAt bytes 6 8) = (bytes.drop 6).take 8 :=
    encode_fieldAt (by omega)
  have hsent : encode 8 (fieldAt bytes 14 8) = (bytes.drop 14).take 8 := encode_fieldAt (by omega)
  have hblocked : encode 4 (fieldAt bytes 22 4) = (bytes.drop 22).take 4 :=
    encode_fieldAt (by omega)
  -- No number is cut when it is put into its word.
  simp only [Header.encode, Header.ofBytes, UInt32.toNat_ofNat_of_lt' (fieldAt_lt bytes _ 4),
    UInt16.toNat_ofNat_of_lt' (fieldAt_lt bytes _ 2),
    UInt64.toNat_ofNat_of_lt' (fieldAt_lt bytes _ 8)]
  rw [hsequence, hpayload, hreceived, hsent, hblocked]
  show _ = bytes.take (4 + 2 + 8 + 8 + 4)
  simp only [List.take_add]

/-- What is read was put together from what it is read as. -/
theorem decode_eq_ok_iff {datagram : Bytes} {h : Header} {payload : Bytes} :
    decode datagram = .ok (h, payload) ↔
      datagram = h.encode ++ payload ∧ payload.length = h.payloadLength.toNat := by
  constructor
  · intro hdecode
    unfold decode at hdecode
    split at hdecode
    · cases hdecode
    · rename_i hshort
      have hlong : headerLength ≤ datagram.length := Nat.le_of_not_lt hshort
      simp only at hdecode
      split at hdecode
      · rename_i hlength
        cases hdecode
        refine ⟨?_, ?_⟩
        -- The header gives back the first 26 bytes, and the payload is the rest.
        · rw [encode_ofBytes hlong, List.take_append_drop]
        · rw [List.length_drop]
          omega
      · cases hdecode
  · rintro ⟨rfl, hlength⟩
    exact decode_encode_append hlength

/-- Only a datagram that is shorter than a header is refused as too short, and with its length. -/
theorem decode_eq_tooShort_iff {datagram : Bytes} {n : Nat} :
    decode datagram = .error (.tooShort n) ↔
      n = datagram.length ∧ datagram.length < headerLength := by
  unfold decode
  split
  · rename_i hshort
    simp [hshort, eq_comm]
  · rename_i hshort
    simp only [hshort, and_false, iff_false]
    split <;> simp

/-- **Writing and reading are inverse in both directions.** What was put together from a header and
a payload is taken apart into them if the payload has the announced length, and is refused with both
lengths otherwise. A datagram that is taken apart was put together in just this way, so that no two
datagrams are read alike. It is too short exactly if there is no room for a header. -/
theorem decode_inverts_encode (h : Header) (payload datagram : Bytes) :
    (decode (h.encode ++ payload) =
      if payload.length = h.payloadLength.toNat then .ok (h, payload)
      else .error (.badLength (26 + h.payloadLength.toNat) (26 + payload.length))) ∧
    (decode datagram = .ok (h, payload) ↔
      datagram = h.encode ++ payload ∧ payload.length = h.payloadLength.toNat) ∧
    ((∃ n, decode datagram = .error (.tooShort n)) ↔ datagram.length < 26) := by
  refine ⟨decode_encode_append_eq h payload, decode_eq_ok_iff, ?_⟩
  simp only [decode_eq_tooShort_iff, exists_eq_left]
  rfl

end VehicleLink.Aggregate
