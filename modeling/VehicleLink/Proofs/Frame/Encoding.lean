import Mathlib.Algebra.GroupWithZero.Nat
import Mathlib.Data.List.Forall2
import VehicleLink.Proofs.Frame.Checksum
import VehicleLink.Proofs.Frame.Grammar

/-!
# Reading back encoded frames

A message that was encoded, with noise in front of it, comes out of the scanner as one frame with
what was put in (`encoded_stream_read_back`). Two things get lost on the way: payload bytes behind
the first 255, and the highest byte of the message id. The second one shows, because the checksum is
seeded by the whole id but is checked with the id that was written: the frame passes its check
exactly if the two ids have the same seed (`checksumMatches_datagram`). For "only if" no two seeds
may lead to the same checksum, that is, the last step of the checksum must be injective
(`Checksum.step_right_inj`).
-/

namespace VehicleLink

namespace Frame

/-- Over the same bytes, checksums agree exactly if their seeds do. -/
theorem checksum_eq_iff {body : Bytes} {id id' : UInt32} :
    checksum body id = checksum body id' ↔ checksumSeed id = checksumSeed id' :=
  Checksum.step_right_inj

/-- The check compares the checksum over the checked bytes with the number that is stored behind the
payload. -/
theorem Header.checksumMatches_iff {h : Header} {frame : Bytes} {stored : UInt16}
    (hstored : (frame.drop h.payloadEnd).take checksumLength =
      LittleEndian.encode checksumLength stored.toNat) :
    h.checksumMatches frame = true ↔ checksum (h.checkedBytes frame) h.messageId = stored := by
  have hread :
      LittleEndian.decode (LittleEndian.encode checksumLength stored.toNat) = stored.toNat :=
    LittleEndian.decode_encode_of_lt stored.toNat_lt
  -- The check looks at two single bytes.
  have hbytes : LittleEndian.encode checksumLength stored.toNat =
      [UInt8.ofNat (stored.toNat % 256), UInt8.ofNat (stored.toNat / 256 % 256)] := rfl
  rw [hbytes] at hstored hread
  unfold checksumMatches
  simp only [hstored, hread, decide_eq_true_eq, UInt16.toNat_inj]

/-- A message to be encoded, and the noise that stands in front of it on the line. -/
structure Entry where
  noise : Bytes
  sequence : UInt8
  system : UInt8
  component : UInt8
  messageId : UInt32
  payload : Bytes

namespace Entry

variable (e : Entry)

/-- The encoded message. -/
def datagram : Bytes := encode e.sequence e.system e.component e.messageId e.payload

/-- What stands on the line for the entry. -/
def bytes : Bytes := e.noise ++ e.datagram

/-- The payload bytes that are encoded. -/
def kept : Bytes := e.payload.take maxPayloadLength

/-- What the checksum of the encoded message covers. -/
def body : Bytes :=
  [UInt8.ofNat e.kept.length, 0, 0, e.sequence, e.system, e.component]
    ++ LittleEndian.encode 3 e.messageId.toNat ++ e.kept

/-- What the header of the encoded message says. The flags are zero, so that it is not signed. -/
def header : Header where
  marker := .v2
  payloadLength := UInt8.ofNat e.kept.length
  incompatFlags := 0
  sequence := e.sequence
  system := e.system
  component := e.component
  messageId := UInt32.ofNat (e.messageId.toNat % 2 ^ 24)

/-- The frame that a scanner makes of the encoded message. -/
def frame : Frame := ⟨e.header, e.datagram, e.header.checksumMatches e.datagram⟩

/-- What became of an entry: a frame of all that was encoded, with as much of the message as fits
into it, and with a right checksum exactly if the id that was cut has the seed of the whole one. -/
structure Carried (f : Frame) : Prop where
  bytes_eq : f.bytes = e.datagram
  sequence_eq : f.header.sequence = e.sequence
  system_eq : f.header.system = e.system
  component_eq : f.header.component = e.component
  messageId_eq : f.header.messageId.toNat = e.messageId.toNat % 2 ^ 24
  payload_eq : f.payload = e.payload.take 255
  checksumOk_iff : f.checksumOk = true ↔ checksumSeed e.messageId = checksumSeed f.header.messageId
  checksumOk_of_lt : e.messageId.toNat < 2 ^ 24 → f.checksumOk = true

/-! ## One frame -/

theorem datagram_eq :
    e.datagram = Marker.v2.toByte :: (e.body
      ++ LittleEndian.encode checksumLength (checksum e.body e.messageId).toNat) := rfl

theorem length_kept_le : e.kept.length ≤ 255 := by
  have hkept := List.length_take_le maxPayloadLength e.payload
  exact hkept

/-- The length byte tells how much was kept, as that is never too much for a byte. -/
theorem toNat_payloadLength : e.header.payloadLength.toNat = e.kept.length := by
  have hkept := e.length_kept_le
  show (UInt8.ofNat e.kept.length).toNat = e.kept.length
  rw [UInt8.toNat_ofNat']
  omega

theorem length_body : e.body.length = 9 + e.kept.length := by
  simp only [body, List.length_append, List.length_cons, List.length_nil,
    LittleEndian.length_encode]

theorem payloadEnd_header : e.header.payloadEnd = e.body.length + 1 := by
  have hstart : e.header.payloadStart = 10 := rfl
  rw [Header.payloadEnd, hstart, toNat_payloadLength, length_body]
  omega

/-- Of the id the three lowest bytes are written. -/
theorem ofBytes_datagram : Header.ofBytes e.datagram = .ok e.header := by
  -- All fields but the id are single bytes at fixed places.
  have hread : Header.ofBytes e.datagram = .ok { e.header with
      messageId := UInt32.ofNat (LittleEndian.decode (LittleEndian.encode 3 e.messageId.toNat)) } :=
    rfl
  rw [hread, LittleEndian.decode_encode]
  rfl

/-- An encoded message is as long as its header says, as no flag announces a signature. -/
theorem length_datagram : e.datagram.length = e.header.frameLength := by
  have hunsigned : ¬ e.header.incompatFlags.toNat.testBit 0 = true := by
    show ¬ (0 : UInt8).toNat.testBit 0 = true
    decide
  have hchecksum : checksumLength = 2 := rfl
  rw [Header.frameLength_v2 rfl, if_neg hunsigned, toNat_payloadLength, datagram_eq,
    List.length_cons, List.length_append, length_body, LittleEndian.length_encode, hchecksum]
  omega

theorem whole_frame : e.frame.Whole :=
  ⟨inspect_eq_ok_iff.2 ⟨e.ofBytes_datagram, e.length_datagram⟩, rfl⟩

theorem payload_frame : e.frame.payload = e.kept := by
  have hstart : e.datagram.drop 10 =
      e.kept ++ LittleEndian.encode checksumLength (checksum e.body e.messageId).toNat := rfl
  show (e.datagram.drop 10).take e.header.payloadLength.toNat = e.kept
  rw [hstart, toNat_payloadLength, List.take_left]

theorem checkedBytes_datagram : e.header.checkedBytes e.datagram = e.body := by
  rw [Header.checkedBytes, payloadEnd_header, datagram_eq, List.take_succ_cons, List.take_left]
  rfl

/-- The check is made with the id that was written, but the checksum was seeded by the whole id. -/
theorem checksumMatches_datagram :
    e.header.checksumMatches e.datagram = true ↔
      checksumSeed e.messageId = checksumSeed e.header.messageId := by
  have hstored : (e.datagram.drop e.header.payloadEnd).take checksumLength =
      LittleEndian.encode checksumLength (checksum e.body e.messageId).toNat := by
    have hlength := LittleEndian.length_encode checksumLength (checksum e.body e.messageId).toNat
    rw [payloadEnd_header, datagram_eq, List.drop_succ_cons, List.drop_left,
      List.take_of_length_le (Nat.le_of_eq hlength)]
  rw [Header.checksumMatches_iff hstored, checkedBytes_datagram, checksum_eq_iff, eq_comm]

/-- The frame that a scanner makes carries the message. -/
theorem carried_frame : e.Carried e.frame where
  bytes_eq := rfl
  sequence_eq := rfl
  system_eq := rfl
  component_eq := rfl
  messageId_eq := by
    have hlt : e.messageId.toNat % 2 ^ 24 < 2 ^ 24 := Nat.mod_lt _ (by decide)
    exact UInt32.toNat_ofNat_of_lt' (Nat.lt_trans hlt (by decide))
  payload_eq := e.payload_frame
  checksumOk_iff := e.checksumMatches_datagram
  checksumOk_of_lt := by
    intro hlt
    -- An id of three bytes is written whole, and the seed is that of the id that is read.
    have hid : e.header.messageId = e.messageId := by
      show UInt32.ofNat (e.messageId.toNat % 2 ^ 24) = e.messageId
      rw [Nat.mod_eq_of_lt hlt, UInt32.ofNat_toNat]
    have hmatches := e.checksumMatches_datagram
    rw [hid] at hmatches
    exact hmatches.2 rfl

end Entry

/-! ## A whole line -/

/-- The noise in front of each frame is dropped and counted, and then the frame is cut off. -/
theorem drain_entries {entries : List Entry}
    (hnoise : ∀ e ∈ entries, ∀ b ∈ e.noise, b ≠ 0xFD ∧ b ≠ 0xFE) (n : Nat) :
    Scanner.drain ⟨entries.flatMap Entry.bytes, n⟩ =
      (entries.map Entry.frame, ⟨[], n + (entries.map fun e => e.noise.length).sum⟩) := by
  induction entries generalizing n with
  | nil => exact Scanner.drain_of_next_none rfl
  | cons e rest ih =>
    -- Noise without markers is dropped whole, and then a whole frame stands at the front.
    have hquiet : ∀ b ∈ e.noise, Marker.starts b = false := fun b hb =>
      Marker.starts_eq_false_iff.2 (hnoise e List.mem_cons_self b hb)
    have hrest := ih (fun g hg => hnoise g (List.mem_cons_of_mem e hg)) (n + e.noise.length)
    have hfirst := Scanner.drain_whole_append e.whole_frame (rest.flatMap Entry.bytes)
      (n + e.noise.length)
    rw [hrest] at hfirst
    rw [List.flatMap_cons, Entry.bytes, List.append_assoc, Scanner.drain_noise_append hquiet]
    show Scanner.drain ⟨e.frame.bytes ++ _, _⟩ = _
    rw [hfirst, List.map_cons, List.map_cons, List.sum_cons, Nat.add_assoc]

/-- **What was encoded is read back.** Whatever messages are encoded, with noise without start
markers in front of each, and however the line is cut: the scanner finds one frame for each message,
in order, with what was put in. The noise is dropped and counted, and nothing is left. -/
theorem encoded_stream_read_back (entries : List Entry)
    (hnoise : ∀ e ∈ entries, ∀ b ∈ e.noise, b ≠ 0xFD ∧ b ≠ 0xFE) (calls : List Scanner.Call)
    (htold : Scanner.told calls = entries.flatMap Entry.bytes) :
    let asked := ({} : Scanner).performAll calls
    let frames := asked.1 ++ asked.2.drain.1
    List.Forall₂ Entry.Carried entries frames ∧
      asked.2.drain.2 = ⟨[], (entries.map fun e => e.noise.length).sum⟩ := by
  intro asked frames
  -- However the line is cut, the frames are those of the line in one piece.
  have hdrain : (frames, asked.2.drain.2) = Scanner.drain ⟨entries.flatMap Entry.bytes, 0⟩ :=
    htold ▸ Scanner.performAll_drain {} calls
  rw [drain_entries hnoise, Nat.zero_add] at hdrain
  obtain ⟨hframes, hrest⟩ := Prod.mk.inj hdrain
  refine ⟨?_, hrest⟩
  rw [hframes, List.forall₂_map_right_iff, List.forall₂_same]
  exact fun e _ => e.carried_frame

/-- A message whose id does not fit and leaves that of a heartbeat behind, and a heartbeat with more
payload than fits. Both payloads are full of start markers. -/
def overlongEntries : List Entry :=
  [⟨[0x00, 0x11], 7, 1, 1, 0x01000000, [0xFD, 0xFE, 0xFD]⟩,
    ⟨[0x33], 8, 1, 1, 0, List.replicate 300 0xFD⟩]

/-- The line is cut inside the first header. -/
theorem overlong_entries_read_back :
    let asked := ({} : Scanner).performAll (Scanner.cutAt 5 (overlongEntries.flatMap Entry.bytes))
    let frames := asked.1 ++ asked.2.drain.1
    List.Forall₂ Entry.Carried overlongEntries frames ∧ asked.2.drain.2 = ⟨[], 3⟩ ∧
      frames.map Frame.checksumOk = [false, true] := by
  intro asked frames
  have hnoise : ∀ e ∈ overlongEntries, ∀ b ∈ e.noise, b ≠ 0xFD ∧ b ≠ 0xFE := by
    simp only [overlongEntries, List.forall_mem_cons, List.not_mem_nil, false_implies, implies_true]
    decide
  obtain ⟨hcarried, hrest⟩ :=
    encoded_stream_read_back overlongEntries hnoise _ (Scanner.told_cutAt 5 _)
  refine ⟨hcarried, hrest, ?_⟩
  obtain ⟨first, others, hfirst, hothers, hframes⟩ := List.forall₂_cons_left_iff.1 hcarried
  obtain ⟨second, later, hsecond, hlater, rfl⟩ := List.forall₂_cons_left_iff.1 hothers
  obtain rfl := List.forall₂_nil_left_iff.1 hlater
  -- The id that is left of the first message is that of a heartbeat.
  have hid : first.header.messageId = 0 := UInt32.toNat_inj.1 hfirst.messageId_eq
  have hwrong : first.checksumOk = false := by
    rw [← Bool.not_eq_true, hfirst.checksumOk_iff, hid]
    decide
  have hright : second.checksumOk = true := hsecond.checksumOk_of_lt (by decide)
  have hmap : frames.map Frame.checksumOk = [first, second].map Frame.checksumOk :=
    congrArg (List.map Frame.checksumOk) hframes
  rw [hmap, List.map_cons, List.map_singleton, hwrong, hright]

end Frame

end VehicleLink
