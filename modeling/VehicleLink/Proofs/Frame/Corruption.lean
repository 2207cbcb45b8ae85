import VehicleLink.Proofs.Frame.Checksum

/-!
# Corrupted frames do not pass

Two frames of one header that both carry the right checksum cannot differ in one or two adjacent
bytes only (`adjacent_corruption_detected`). If it is checked bytes that differ, both frames store
the same checksum, and it tells the two bytes (`Checksum.update_adjacent_inj`), as does every
register after them. If it is the stored checksum that differs, the checked bytes are the same, and
there is one right checksum for them.

Where the checked bytes border on the checksum the two cases mix, and a change can go unnoticed.
-/

namespace VehicleLink.Frame

/-! ## What passes the check -/

/-- The check compares the bytes behind the payload with those that the checksum is written as. -/
theorem Header.checksumMatches_eq_true_iff {h : Header} {frame : Bytes} :
    h.checksumMatches frame = true ↔
      (frame.drop h.payloadEnd).take checksumLength =
        LittleEndian.encode checksumLength
          (checksum (h.checkedBytes frame) h.messageId).toNat := by
  constructor
  · intro hmatches
    unfold checksumMatches at hmatches
    -- The two bytes are there, or else the check fails.
    split at hmatches
    · rename_i low high hstored
      rw [hstored, of_decide_eq_true hmatches]
      exact (LittleEndian.encode_decode [low, high]).symm
    · cases hmatches
  · intro hstored
    have hread : LittleEndian.decode (LittleEndian.encode checksumLength
        (checksum (h.checkedBytes frame) h.messageId).toNat) =
          (checksum (h.checkedBytes frame) h.messageId).toNat :=
      LittleEndian.decode_encode_of_lt (UInt16.toNat_lt _)
    unfold checksumMatches
    rw [hstored]
    exact decide_eq_true hread.symm

/-- A frame that passes the check does not end before its checksum does. -/
theorem Header.le_length_of_checksumMatches {h : Header} {frame : Bytes}
    (hmatches : h.checksumMatches frame = true) : h.payloadEnd + 2 ≤ frame.length := by
  have hlength := congrArg List.length (checksumMatches_eq_true_iff.1 hmatches)
  rw [List.length_take, List.length_drop, LittleEndian.length_encode] at hlength
  have htwo : checksumLength = 2 := rfl
  omega

/-! ## Strings that differ in two adjacent places -/

/-- Strings that agree everywhere but in two adjacent places are the same around these. -/
theorem exists_adjacent {f g : Bytes} {i : Nat} (hf : i + 1 < f.length) (hg : i + 1 < g.length)
    (hsame : ∀ j, j ≠ i → j ≠ i + 1 → f[j]? = g[j]?) :
    ∃ front a b c d back, front.length = i ∧
      f = front ++ a :: b :: back ∧ g = front ++ c :: d :: back := by
  -- Any string can be taken apart at the two places.
  have hsplit : ∀ {s : Bytes} (hs : i + 1 < s.length),
      s = s.take i ++ s[i] :: s[i + 1] :: s.drop (i + 2) := by
    intro s hs
    rw [← List.drop_eq_getElem_cons, ← List.drop_eq_getElem_cons, List.take_append_drop]
  have hfront : g.take i = f.take i := by
    apply List.ext_getElem?
    intro j
    rw [List.getElem?_take, List.getElem?_take]
    split
    · exact (hsame j (by omega) (by omega)).symm
    · rfl
  have hback : g.drop (i + 2) = f.drop (i + 2) := by
    apply List.ext_getElem?
    intro j
    rw [List.getElem?_drop, List.getElem?_drop]
    exact (hsame _ (by omega) (by omega)).symm
  refine ⟨f.take i, f[i], f[i + 1], g[i], g[i + 1], f.drop (i + 2), ?_, hsplit hf, ?_⟩
  · rw [List.length_take]
    omega
  · rw [← hfront, ← hback]
    exact hsplit hg

section Adjacent

variable {h : Header} {front back : Bytes} {a b c d : UInt8}

/-- With the same checksum stored, two adjacent checked bytes are told by it. -/
theorem eq_of_checked_bytes (hfront : 1 ≤ front.length)
    (hend : front.length + 2 ≤ h.payloadEnd)
    (hf : h.checksumMatches (front ++ a :: b :: back) = true)
    (hg : h.checksumMatches (front ++ c :: d :: back) = true) : a = c ∧ b = d := by
  -- So many checked bytes stand behind the two.
  obtain ⟨k, hk⟩ := Nat.exists_eq_add_of_le hend
  rw [Nat.add_assoc, Nat.add_comm 2 k] at hk
  have hchecked : ∀ x y : UInt8, h.checkedBytes (front ++ x :: y :: back) =
      front.drop 1 ++ x :: y :: back.take k := by
    intro x y
    rw [Header.checkedBytes, hk, List.take_length_add_append, List.take_succ_cons,
      List.take_succ_cons, List.drop_append_of_le_length hfront]
  -- The stored checksum lies behind the two bytes and is the same in both.
  have hstored : ∀ x y : UInt8, (front ++ x :: y :: back).drop h.payloadEnd = back.drop k := by
    intro x y
    rw [hk, List.drop_length_add_append, List.drop_succ_cons, List.drop_succ_cons]
  rw [Header.checksumMatches_eq_true_iff, hchecked, hstored] at hf hg
  have hnumber := congrArg LittleEndian.decode (hf.symm.trans hg)
  rw [LittleEndian.decode_encode_of_lt (UInt16.toNat_lt _),
    LittleEndian.decode_encode_of_lt (UInt16.toNat_lt _), UInt16.toNat_inj] at hnumber
  -- The seed byte and the bytes behind the two keep different registers apart.
  exact (Checksum.update_adjacent_inj _ _).1 (Checksum.step_left_inj.1 hnumber)

/-- For the same checked bytes one checksum only is right. -/
theorem eq_of_stored_bytes (hend : front.length = h.payloadEnd)
    (hf : h.checksumMatches (front ++ a :: b :: back) = true)
    (hg : h.checksumMatches (front ++ c :: d :: back) = true) : a = c ∧ b = d := by
  have hchecked : ∀ s : Bytes, h.checkedBytes (front ++ s) = front.drop 1 := by
    intro s
    rw [Header.checkedBytes, ← hend, List.take_left]
  rw [Header.checksumMatches_eq_true_iff, hchecked, ← hend, List.drop_left] at hf hg
  -- The two bytes are the stored checksum, which is right in both.
  have hstored : [a, b] = [c, d] := hf.trans hg.symm
  rw [List.cons.injEq, List.cons.injEq] at hstored
  exact ⟨hstored.1, hstored.2.1⟩

end Adjacent

/-! ## The theorem -/

/-- **The checksum detects every short corruption.** Of a frame that passes the check, let one byte
or two adjacent ones be changed, either among those that are checked or in the stored checksum: what
comes out passes the check, with the same header, only if nothing was changed. -/
theorem adjacent_corruption_detected (h : Header) {f g : Bytes} {i : Nat}
    (hplace : 1 ≤ i ∧ i + 1 < h.payloadEnd ∨ i = h.payloadEnd)
    (hsame : ∀ j, j ≠ i → j ≠ i + 1 → f[j]? = g[j]?) (hf : h.checksumMatches f = true) :
    h.checksumMatches g = true ↔ f = g := by
  constructor
  · intro hg
    have hflength := Header.le_length_of_checksumMatches hf
    have hglength := Header.le_length_of_checksumMatches hg
    -- Both frames are long enough for the two places, since both pass the check.
    obtain ⟨front, a, b, c, d, back, hfront, rfl, rfl⟩ :=
      exists_adjacent (f := f) (g := g) (i := i) (by omega) (by omega) hsame
    have hbytes : a = c ∧ b = d := by
      rcases hplace with ⟨hfirst, hlast⟩ | hend
      · exact eq_of_checked_bytes (by omega) (by omega) hf hg
      · exact eq_of_stored_bytes (by omega) hf hg
    rw [hbytes.1, hbytes.2]
  · rintro rfl
    exact hf

/-- A heartbeat of which two payload bytes were changed. -/
theorem corrupted_heartbeat_detected :
    let h : Header := ⟨.v2, 9, 0, 1, 1, 1, 0⟩
    let f := encode 1 1 1 0 (List.replicate 9 0)
    let g := (f.set 12 0xFF).set 13 0x80
    h.checksumMatches f = true ∧ (∀ j, j ≠ 12 → j ≠ 13 → f[j]? = g[j]?) ∧
      h.checksumMatches g = false := by
  intro h f g
  have hf : h.checksumMatches f = true := by decide
  have hsame : ∀ j, j ≠ 12 → j ≠ 12 + 1 → f[j]? = g[j]? := by
    intro j hfirst hsecond
    rw [List.getElem?_set_ne (Ne.symm hsecond), List.getElem?_set_ne (Ne.symm hfirst)]
  refine ⟨hf, hsame, ?_⟩
  rw [← Bool.not_eq_true, adjacent_corruption_detected h (Or.inl (by decide)) hsame hf]
  decide

/-- The last checked byte and the first one of the checksum may change together. -/
example :
    let h : Header := ⟨.v1, 0, 0, 0, 0, 0, 0⟩
    h.checksumMatches [0xFE, 0, 0, 0, 0, 0x00, 225, 26] = true ∧
      h.checksumMatches [0xFE, 0, 0, 0, 0, 0x91, 100, 26] = true := by
  decide

end VehicleLink.Frame
