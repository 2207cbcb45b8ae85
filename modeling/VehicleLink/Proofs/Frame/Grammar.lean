import VehicleLink.Proofs.Frame.Joining

/-!
# The grammar of frames

`Frame.Grammatical` says field by field what a frame of either version is, without any reader. A
datagram is accepted exactly if it is such a byte string (`inspect_eq_ok_iff_grammatical`). A
scanner that is told the same bytes, in whatever pieces, agrees: it makes one frame of all of them
then, and otherwise never does (`accepted_iff_grammar_iff_one_frame`).
-/

namespace VehicleLink.Frame

/-- The byte strings that are one frame, with what their headers say. The checksum may be any. -/
inductive Grammatical : Bytes → Header → Prop where
  /-- A frame of version 1 has a one-byte message id and is never signed. -/
  | v1 (length sequence system component id : UInt8) (payload checksum : Bytes)
      (hpayload : payload.length = length.toNat) (hchecksum : checksum.length = 2) :
      Grammatical
        (0xFE :: length :: sequence :: system :: component :: id :: (payload ++ checksum))
        { marker := .v1, payloadLength := length, incompatFlags := 0, sequence, system, component,
          messageId := id.toUInt32 }
  /-- A frame of version 2 has a three-byte message id, lowest byte first, and is signed exactly if
  the lowest incompatibility flag is set. The compatibility flags have no meaning. -/
  | v2 (length incompat compat sequence system component id₀ id₁ id₂ : UInt8)
      (payload checksum signature : Bytes)
      (hpayload : payload.length = length.toNat) (hchecksum : checksum.length = 2)
      (hsignature : signature.length = if incompat.toNat.testBit 0 then 13 else 0) :
      Grammatical
        (0xFD :: length :: incompat :: compat :: sequence :: system :: component
          :: id₀ :: id₁ :: id₂ :: (payload ++ checksum ++ signature))
        { marker := .v2, payloadLength := length, incompatFlags := incompat, sequence, system,
          component,
          messageId := UInt32.ofNat (id₀.toNat + 256 * id₁.toNat + 65536 * id₂.toNat) }

variable {datagram : Bytes} {h : Header}

/-- Version 1 knows no signature. -/
theorem Header.frameLength_v1 (hmarker : h.marker = .v1) :
    h.frameLength = 6 + h.payloadLength.toNat + 2 := by
  have hunsigned : h.isSigned = false := by rw [isSigned, hmarker]
  rw [frameLength, payloadEnd, payloadStart, hmarker, hunsigned]
  rfl

/-- The mask of the signature flag reads the lowest bit. -/
theorem Header.frameLength_v2 (hmarker : h.marker = .v2) :
    h.frameLength =
      10 + h.payloadLength.toNat + 2 + if h.incompatFlags.toNat.testBit 0 then 13 else 0 := by
  -- The flag is the lowest bit, which is what is left after dividing by two.
  have hmask : (h.incompatFlags &&& signedFlag).toNat = h.incompatFlags.toNat % 2 := by
    rw [UInt8.toNat_and]
    exact Nat.and_one_is_mod _
  have hsigned : h.isSigned = h.incompatFlags.toNat.testBit 0 := by
    rw [isSigned, hmarker]
    apply Bool.eq_iff_iff.mpr
    simp only [bne_iff_ne, ne_eq, ← UInt8.toNat_inj, hmask, UInt8.toNat_zero, Nat.testBit_zero,
      decide_eq_true_eq]
    omega
  rw [frameLength, payloadEnd, payloadStart, hmarker, hsigned]
  rfl

theorem decode_three (id₀ id₁ id₂ : UInt8) :
    LittleEndian.decode [id₀, id₁, id₂] = id₀.toNat + 256 * id₁.toNat + 65536 * id₂.toNat := by
  simp only [LittleEndian.decode]
  omega

/-- What the grammar says of a header is what the reader reads. -/
theorem Grammatical.ofBytes_eq (hg : Grammatical datagram h) : Header.ofBytes datagram = .ok h := by
  rw [Header.ofBytes_eq_ok_iff]
  cases hg with
  | v1 length sequence system component id payload checksum =>
    exact Or.inl ⟨length, sequence, system, component, id, payload ++ checksum, rfl, rfl⟩
  | v2 length incompat compat sequence system component id₀ id₁ id₂ payload checksum signature =>
    rw [← decode_three]
    exact Or.inr ⟨length, incompat, compat, sequence, system, component, id₀, id₁, id₂,
      payload ++ checksum ++ signature, rfl, rfl⟩

/-- The parts of a frame are together as long as its header says. -/
theorem Grammatical.length_eq (hg : Grammatical datagram h) : datagram.length = h.frameLength := by
  cases hg with
  | v1 length sequence system component id payload checksum hpayload hchecksum =>
    rw [Header.frameLength_v1 rfl]
    simp only [List.length_cons, List.length_append, hpayload, hchecksum]
    omega
  | v2 length incompat compat sequence system component id₀ id₁ id₂ payload checksum signature
      hpayload hchecksum hsignature =>
    rw [Header.frameLength_v2 rfl]
    simp only [List.length_cons, List.length_append, hpayload, hchecksum, hsignature]
    omega

/-- The header fixes where the payload, the checksum and the signature are. -/
theorem grammatical_of_ofBytes (hread : Header.ofBytes datagram = .ok h)
    (hlength : datagram.length = h.frameLength) : Grammatical datagram h := by
  rcases Header.ofBytes_eq_ok_iff.1 hread with
    ⟨length, sequence, system, component, id, rest, rfl, rfl⟩ |
    ⟨length, incompat, compat, sequence, system, component, id₀, id₁, id₂, rest, rfl, rfl⟩
  · rw [Header.frameLength_v1 rfl] at hlength
    simp only [List.length_cons] at hlength
    have hpayload : (rest.take length.toNat).length = length.toNat := by
      rw [List.length_take]
      omega
    have hchecksum : (rest.drop length.toNat).length = 2 := by
      rw [List.length_drop]
      omega
    rw [← List.take_append_drop length.toNat rest]
    exact .v1 length sequence system component id _ _ hpayload hchecksum
  · rw [Header.frameLength_v2 rfl] at hlength
    simp only [List.length_cons] at hlength
    have hpayload : (rest.take length.toNat).length = length.toNat := by
      rw [List.length_take]
      omega
    have hchecksum : ((rest.drop length.toNat).take 2).length = 2 := by
      rw [List.length_take, List.length_drop]
      omega
    -- What is left behind the checksum is the signature, or nothing.
    have hsignature : ((rest.drop length.toNat).drop 2).length =
        if incompat.toNat.testBit 0 then 13 else 0 := by
      rw [List.length_drop, List.length_drop]
      omega
    rw [← List.take_append_drop length.toNat rest,
      ← List.take_append_drop 2 (rest.drop length.toNat), ← List.append_assoc, decode_three]
    exact .v2 length incompat compat sequence system component id₀ id₁ id₂ _ _ _ hpayload hchecksum
      hsignature

/-- A datagram is accepted exactly if the grammar makes it a frame. -/
theorem inspect_eq_ok_iff_grammatical : inspect datagram = .ok h ↔ Grammatical datagram h := by
  rw [inspect_eq_ok_iff]
  constructor
  · rintro ⟨hread, hlength⟩
    exact grammatical_of_ofBytes hread hlength
  · intro hg
    exact ⟨hg.ofBytes_eq, hg.length_eq⟩

/-- **A datagram is accepted exactly if it is a frame, and then it is one frame of the stream.** The
two ways into the relay draw the same boundaries. A datagram is accepted with a header exactly if
the grammar gives it this header. Let a scanner be told the same bytes in whatever pieces, and asked
for frames in between and then until there is none: it yields a frame of all of the bytes exactly if
they are accepted as a datagram. That frame has the header of the datagram, it is the only one,
nothing is dropped and nothing is left. -/
theorem accepted_iff_grammar_iff_one_frame (datagram : Bytes) :
    (∀ h, inspect datagram = .ok h ↔ Grammatical datagram h) ∧
    ∀ calls, Scanner.told calls = datagram →
      let asked := ({} : Scanner).performAll calls
      let frames := asked.1 ++ asked.2.drain.1
      ((∃ h, inspect datagram = .ok h) ↔ ∃ f ∈ frames, f.bytes = datagram) ∧
      ∀ h, inspect datagram = .ok h →
        frames = [⟨h, datagram, h.checksumMatches datagram⟩] ∧ asked.2.drain.2 = ⟨[], 0⟩ := by
  refine ⟨fun h => inspect_eq_ok_iff_grammatical, ?_⟩
  rintro calls rfl
  intro asked frames
  -- However the bytes are cut, the frames are those of the bytes in one piece.
  have hdrain : (frames, asked.2.drain.2) = Scanner.drain ⟨Scanner.told calls, 0⟩ :=
    Scanner.performAll_drain {} calls
  -- A datagram that is accepted is one frame joined with nothing else.
  have hone : ∀ h, inspect (Scanner.told calls) = .ok h →
      frames = [⟨h, Scanner.told calls, h.checksumMatches (Scanner.told calls)⟩] ∧
        asked.2.drain.2 = ⟨[], 0⟩ := by
    intro h hinspect
    let f : Frame := ⟨h, Scanner.told calls, h.checksumMatches (Scanner.told calls)⟩
    have hwhole : ∀ g ∈ [f], g.Whole := by
      intro g hg
      rw [List.mem_singleton.1 hg]
      exact ⟨hinspect, rfl⟩
    have hflatten := Scanner.drain_flatten hwhole 0
    simp only [List.map_cons, List.map_nil, List.flatten_cons, List.flatten_nil,
      List.append_nil] at hflatten
    exact Prod.mk.injEq .. ▸ hdrain.trans hflatten
  refine ⟨⟨?_, ?_⟩, hone⟩
  · rintro ⟨h, hinspect⟩
    rw [(hone h hinspect).1]
    exact ⟨_, List.mem_singleton_self _, rfl⟩
  · rintro ⟨f, hf, hbytes⟩
    -- A frame that was cut off is whole, and it has all bytes of the datagram.
    have hmem : f ∈ (Scanner.drain ⟨Scanner.told calls, 0⟩).1 := hdrain ▸ hf
    exact ⟨f.header, hbytes ▸ (Scanner.whole_of_mem_drain hmem).inspect_eq⟩

end VehicleLink.Frame
