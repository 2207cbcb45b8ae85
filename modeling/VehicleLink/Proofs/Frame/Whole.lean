import VehicleLink.Frame.Scanner

/-!
# Frames that are cut off are whole

What a header says is the first bytes of a frame and nothing else (`Header.ofBytes_eq_ok_iff`), so
that it is read again from the frame that was cut off (`Header.ofBytes_take`). A frame that a
scanner cuts off is therefore a datagram that is one whole frame (`Scanner.whole_of_mem_drain`), and
no longer than the longest frame.
-/

namespace VehicleLink.Frame

namespace Header

/-- A header is read from six bytes or from ten, and what follows them is not looked at. -/
theorem ofBytes_eq_ok_iff {bytes : Bytes} {h : Header} :
    ofBytes bytes = .ok h ↔
      (∃ length sequence system component id rest,
        bytes = 0xFE :: length :: sequence :: system :: component :: id :: rest ∧
          h = ⟨.v1, length, 0, sequence, system, component, id.toUInt32⟩) ∨
      (∃ length incompat compat sequence system component id₀ id₁ id₂ rest,
        bytes = 0xFD :: length :: incompat :: compat :: sequence :: system :: component
            :: id₀ :: id₁ :: id₂ :: rest ∧
          h = ⟨.v2, length, incompat, sequence, system, component,
            UInt32.ofNat (LittleEndian.decode [id₀, id₁, id₂])⟩) := by
  constructor
  · intro hread
    unfold ofBytes at hread
    -- As the header is read: bytes, a marker, and then as many bytes as its version has.
    split at hread
    · cases hread
    · split at hread
      · cases hread
      · rename_i hmarker
        rw [Marker.ofByte?_eq_some_iff.1 hmarker]
        split at hread
        · cases hread
          exact Or.inr ⟨_, _, _, _, _, _, _, _, _, _, rfl, rfl⟩
        · cases hread
      · rename_i hmarker
        rw [Marker.ofByte?_eq_some_iff.1 hmarker]
        split at hread
        · cases hread
          exact Or.inl ⟨_, _, _, _, _, _, rfl, rfl⟩
        · cases hread
  · rintro (⟨_, _, _, _, _, _, rfl, rfl⟩ | ⟨_, _, _, _, _, _, _, _, _, _, rfl, rfl⟩)
    · rfl
    · rfl

/-- A header has all its bytes. -/
theorem headerLength_le_of_ofBytes {bytes : Bytes} {h : Header} (hread : ofBytes bytes = .ok h) :
    h.marker.headerLength ≤ bytes.length := by
  rcases ofBytes_eq_ok_iff.1 hread with
    ⟨_, _, _, _, _, _, rfl, rfl⟩ | ⟨_, _, _, _, _, _, _, _, _, _, rfl, rfl⟩
  · simp [Marker.headerLength]
  · simp [Marker.headerLength]

/-- Only the bytes of the header are looked at. -/
theorem ofBytes_congr {bytes others : Bytes} {h : Header} (hread : ofBytes bytes = .ok h)
    (hsame : others.take h.marker.headerLength = bytes.take h.marker.headerLength) :
    ofBytes others = .ok h := by
  rw [← List.take_append_drop h.marker.headerLength others, hsame, ofBytes_eq_ok_iff]
  -- One case per version; the bytes named there are those of the header, and whatever follows is
  -- not looked at.
  rcases ofBytes_eq_ok_iff.1 hread with
    ⟨_, _, _, _, _, _, rfl, rfl⟩ | ⟨_, _, _, _, _, _, _, _, _, _, rfl, rfl⟩
  · exact Or.inl ⟨_, _, _, _, _, _, rfl, rfl⟩
  · exact Or.inr ⟨_, _, _, _, _, _, _, _, _, _, rfl, rfl⟩

theorem ofBytes_take {bytes : Bytes} {h : Header} {n : Nat} (hread : ofBytes bytes = .ok h)
    (hn : h.marker.headerLength ≤ n) : ofBytes (bytes.take n) = .ok h := by
  apply ofBytes_congr hread
  rw [List.take_take, Nat.min_eq_left hn]

/-- A header that is complete is not read differently when more bytes follow. -/
theorem ofBytes_append {bytes : Bytes} {h : Header} (hread : ofBytes bytes = .ok h)
    (more : Bytes) : ofBytes (bytes ++ more) = .ok h :=
  ofBytes_congr hread (List.take_append_of_le_length (headerLength_le_of_ofBytes hread))

/-- What cannot be read as a header starts with no marker, or it ends before a header does. -/
theorem ofBytes_eq_error {bytes : Bytes} {e : WireError} (hread : ofBytes bytes = .error e) :
    (∃ first rest, bytes = first :: rest ∧ Marker.ofByte? first = none ∧ e = .badMarker first) ∨
      bytes.length < 10 ∧ e = .tooShort bytes.length := by
  unfold ofBytes at hread
  split at hread
  · exact Or.inr ⟨by decide, (Except.error.inj hread).symm⟩
  · split at hread
    · rename_i hmarker
      exact Or.inl ⟨_, _, rfl, hmarker, (Except.error.inj hread).symm⟩
    · split at hread
      · cases hread
      · -- Nine bytes behind the marker would be a header of version 2.
        rename_i rest _ _ _ hshort
        refine Or.inr ⟨Nat.lt_of_not_le fun hlong => ?_, (Except.error.inj hread).symm⟩
        match rest, hshort, hlong with
        | _ :: _ :: _ :: _ :: _ :: _ :: _ :: _ :: _ :: _, hshort, _ =>
          exact hshort _ _ _ _ _ _ _ _ _ _ rfl
    · split at hread
      · cases hread
      · rename_i rest _ _ _ hshort
        refine Or.inr ⟨Nat.lt_of_not_le fun hlong => ?_, (Except.error.inj hread).symm⟩
        match rest, hshort, hlong with
        | _ :: _ :: _ :: _ :: _ :: _, hshort, _ => exact hshort _ _ _ _ _ _ rfl

/-- Ten bytes are enough to read a header, or to tell that there is none. -/
theorem ofBytes_take_eq {n : Nat} (hn : 10 ≤ n) (bytes : Bytes) :
    ofBytes (bytes.take n) = ofBytes bytes := by
  cases hread : ofBytes bytes with
  | ok h =>
    refine ofBytes_take hread (Nat.le_trans ?_ hn)
    cases h.marker <;> decide
  | error e =>
    rcases ofBytes_eq_error hread with ⟨first, rest, rfl, hmarker, rfl⟩ | ⟨hshort, rfl⟩
    · obtain ⟨m, rfl⟩ := Nat.exists_eq_add_of_le' hn
      simp only [List.take_succ_cons, ofBytes, hmarker]
    · rw [List.take_of_length_le (by omega), hread]

theorem headerLength_le_frameLength (h : Header) : h.marker.headerLength ≤ h.frameLength := by
  unfold frameLength payloadEnd payloadStart
  omega

/-- Only a frame of version 2 can be signed, and its header is the longer one. -/
theorem frameLength_le (h : Header) : h.frameLength ≤ maxLength := by
  have hpayload : h.payloadLength.toNat ≤ 255 := Nat.le_of_lt_succ h.payloadLength.toNat_lt
  have hstart : h.marker.headerLength ≤ 10 := by cases h.marker <;> decide
  have hsignature : (if h.isSigned then signatureLength else 0) ≤ 13 := by
    split <;> decide
  unfold frameLength payloadEnd payloadStart checksumLength maxLength
  omega

end Header

/-- A datagram is accepted exactly if it is as long as its header says. -/
theorem inspect_eq_ok_iff {datagram : Bytes} {h : Header} :
    inspect datagram = .ok h ↔
      Header.ofBytes datagram = .ok h ∧ datagram.length = h.frameLength := by
  unfold inspect
  cases Header.ofBytes datagram with
  | error e => simp
  | ok header =>
    simp only [Except.ok.injEq]
    constructor
    · intro hinspect
      split at hinspect
      · rename_i hlength
        cases hinspect
        exact ⟨rfl, hlength⟩
      · cases hinspect
    · rintro ⟨rfl, hlength⟩
      rw [if_pos hlength]

/-- The frame is what a reader makes of its bytes, which are a whole frame. -/
structure Whole (f : Frame) : Prop where
  inspect_eq : inspect f.bytes = .ok f.header
  checksum_eq : f.checksumOk = f.header.checksumMatches f.bytes

/-- The frame holds at least its header, which is therefore read from it again. -/
theorem whole_of_split? {bytes rest : Bytes} {f : Frame} (h : split? bytes = some (f, rest)) :
    f.Whole := by
  obtain ⟨hread, rfl, hlength, hchecksum⟩ := split?_eq_some_iff.1 h
  have hagain : Header.ofBytes f.bytes = .ok f.header := by
    have htaken := Header.ofBytes_take hread (hlength ▸ f.header.headerLength_le_frameLength)
    rwa [List.take_left] at htaken
  exact ⟨inspect_eq_ok_iff.2 ⟨hagain, hlength⟩, hchecksum⟩

theorem Whole.length_le {f : Frame} (hf : f.Whole) : f.bytes.length ≤ maxLength := by
  rw [(inspect_eq_ok_iff.1 hf.inspect_eq).2]
  exact f.header.frameLength_le

end VehicleLink.Frame

namespace VehicleLink.Scanner

theorem whole_of_next {s t : Scanner} {f : Frame} (h : s.next = (some f, t)) : f.Whole := by
  obtain ⟨rest, hsplit, -⟩ := next_eq_some_iff.1 h
  exact Frame.whole_of_split? hsplit

/-- Without a frame, draining is asking once. -/
theorem drain_of_next_none {s t : Scanner} (h : s.next = (none, t)) : s.drain = ([], t) := by
  rw [drain]
  split
  · rename_i u hnext
    rw [h] at hnext
    cases hnext
    rfl
  · rename_i frame u hnext
    rw [h] at hnext
    cases hnext

/-- With a frame, draining goes on behind it. -/
theorem drain_of_next_some {s t : Scanner} {f : Frame} (h : s.next = (some f, t)) :
    s.drain = (f :: t.drain.1, t.drain.2) := by
  rw [drain]
  split
  · rename_i u hnext
    rw [h] at hnext
    cases hnext
  · rename_i frame u hnext
    rw [h] at hnext
    cases hnext
    rfl

/-- Every frame that is cut off is one whole frame, with the header that it was cut off by. -/
theorem whole_of_mem_drain {s : Scanner} {f : Frame} (h : f ∈ s.drain.1) : f.Whole := by
  induction s using drain.induct with
  | case1 s t hnext =>
    rw [drain_of_next_none hnext] at h
    exact absurd h List.not_mem_nil
  | case2 s frame t hnext ih =>
    rw [drain_of_next_some hnext] at h
    rcases List.mem_cons.1 h with rfl | hrest
    · exact whole_of_next hnext
    · exact ih hrest

end VehicleLink.Scanner
