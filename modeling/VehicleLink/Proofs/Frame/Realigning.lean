import VehicleLink.Proofs.Frame.Accounting
import VehicleLink.Proofs.Frame.Grammar

/-!
# Back in step after garbage

Garbage in front of good frames may hold start markers. Each of them announces a frame that does not
exist, of up to 280 bytes, which takes bytes of the good frames with it. The damage is bounded: what
is announced inside the garbage ends less than 280 bytes behind it, and wherever a scanner stands
among frames without other markers, the next marker is that of a frame (`drain_drop`). So the frames
that start 279 bytes behind the garbage or later are all found, and they come last
(`realigned_after_garbage`).

The induction is over the frames that the scanner cuts off, with the invariant that what is pending
is a rest of the garbage and then all of the good frames (`endsWith_garbage`). It ends with the
first cut that goes beyond the garbage.
-/

namespace VehicleLink

namespace Frame

/-- Nothing behind the first byte looks like the start of a frame. -/
def Unmarked (f : Frame) : Prop := ∀ b ∈ f.bytes.tail, b ≠ 0xFD ∧ b ≠ 0xFE

/-- The frames back to back. -/
def joined (frames : List Frame) : Bytes := (frames.map bytes).flatten

/-- Those of the frames that start at the offset `least` or later, when the first one starts at
`offset` and every other one where the one before it ends. -/
def startingFrom (least : Nat) : Nat → List Frame → List Frame
  | _, [] => []
  | offset, f :: rest =>
    if least ≤ offset then f :: startingFrom least (offset + f.bytes.length) rest
    else startingFrom least (offset + f.bytes.length) rest

/-- From the first frame on, all frames start late enough. -/
theorem startingFrom_of_le {least offset : Nat} (h : least ≤ offset) (frames : List Frame) :
    startingFrom least offset frames = frames := by
  induction frames generalizing offset with
  | nil => rfl
  | cons f rest ih =>
    have hrest : startingFrom least (offset + f.bytes.length) rest = rest := ih (by omega)
    rw [startingFrom, if_pos h, hrest]

theorem startingFrom_cons_of_lt {least offset : Nat} (h : offset < least) (f : Frame)
    (rest : List Frame) :
    startingFrom least offset (f :: rest) = startingFrom least (offset + f.bytes.length) rest := by
  rw [startingFrom, if_neg (by omega)]

/-- The frames that start later are the last ones. -/
theorem startingFrom_suffix {least later : Nat} (h : least ≤ later) (offset : Nat)
    (frames : List Frame) :
    startingFrom later offset frames <:+ startingFrom least offset frames := by
  induction frames generalizing offset with
  | nil => exact List.suffix_rfl
  | cons f rest ih =>
    by_cases hlater : later ≤ offset
    · have hleast : least ≤ offset := by omega
      -- All frames start late enough for either bound.
      have hsame := (startingFrom_of_le hlater (f :: rest)).trans (startingFrom_of_le hleast _).symm
      exact hsame ▸ List.suffix_rfl
    · rw [startingFrom_cons_of_lt (by omega)]
      have hrest := ih (offset + f.bytes.length)
      by_cases hleast : least ≤ offset
      · rw [startingFrom, if_pos hleast]
        exact hrest.trans (List.suffix_cons f _)
      · rw [startingFrom_cons_of_lt (by omega)]
        exact hrest

theorem startingFrom_eq_nil {least offset : Nat} {frames : List Frame}
    (h : offset + (joined frames).length < least) : startingFrom least offset frames = [] := by
  induction frames generalizing offset with
  | nil => rfl
  | cons f rest ih =>
    have hlength : (joined (f :: rest)).length = f.bytes.length + (joined rest).length :=
      List.length_append
    rw [startingFrom_cons_of_lt (by omega)]
    exact ih (by omega)

end Frame

namespace Scanner

open VehicleLink.Frame

variable {frames : List Frame}

/-! ## Among good frames -/

/-- Wherever a scanner starts among frames that hold no other markers, it finds the frames that
start there or later. -/
theorem drain_drop (hframes : ∀ f ∈ frames, f.Whole ∧ f.Unmarked) (offset k n : Nat) :
    ∃ m, drain ⟨(joined frames).drop k, n⟩ =
      (startingFrom (offset + k) offset frames, ⟨[], m⟩) := by
  -- On the frames, with the place of the first of them in the stream.
  induction frames generalizing offset k n with
  | nil =>
    have hnil : (joined []).drop k = [] := List.drop_nil
    rw [hnil]
    exact ⟨n, drain_of_next_none rfl⟩
  | cons f rest ih =>
    have hrest : ∀ g ∈ rest, g.Whole ∧ g.Unmarked := fun g hg =>
      hframes g (List.mem_cons_of_mem f hg)
    obtain ⟨hwhole, hunmarked⟩ := hframes f List.mem_cons_self
    have hjoined : joined (f :: rest) = f.bytes ++ joined rest := rfl
    rcases Nat.eq_zero_or_pos k with rfl | hpos
    · -- At the start of the first frame: all of them are cut apart.
      have hall := drain_flatten (fun g hg => (hframes g hg).1) n
      rw [startingFrom_of_le (by omega)]
      exact ⟨n, hall⟩
    · rw [startingFrom_cons_of_lt (by omega)]
      by_cases hinside : k ≤ f.bytes.length
      · -- Inside the first frame: what is left of it is noise.
        have hnoise : ∀ b ∈ f.bytes.drop k, Marker.starts b = false := by
          intro b hb
          have htail : f.bytes.drop k = f.bytes.tail.drop (k - 1) := by
            rw [List.drop_tail, Nat.sub_add_cancel hpos]
          rw [htail] at hb
          exact Marker.starts_eq_false_iff.2 (hunmarked b (List.mem_of_mem_drop hb))
        have hall := drain_flatten (fun g hg => (hrest g hg).1) (n + (f.bytes.drop k).length)
        rw [hjoined, List.drop_append_of_le_length hinside, drain_noise_append hnoise,
          startingFrom_of_le (by omega)]
        exact ⟨_, hall⟩
      · -- Behind the first frame.
        obtain ⟨m, hm⟩ := ih hrest (offset + f.bytes.length) (k - f.bytes.length) n
        have hoffset : offset + f.bytes.length + (k - f.bytes.length) = offset + k := by omega
        rw [hoffset] at hm
        rw [hjoined, List.drop_append, List.drop_of_length_le (by omega), List.nil_append]
        exact ⟨m, hm⟩

/-! ## In the garbage -/

/-- The frames that are found end with these, and if there is one of these, nothing is left. -/
def EndsWith (s : Scanner) (due : List Frame) : Prop :=
  due <:+ s.drain.1 ∧ (due ≠ [] → s.drain.2.pending = [])

theorem EndsWith.of_next {s t : Scanner} {f : Frame} {due : List Frame} (h : t.EndsWith due)
    (hnext : s.next = (some f, t)) : s.EndsWith due := by
  rw [EndsWith, drain_of_next_some hnext]
  exact ⟨h.1.trans (List.suffix_cons f t.drain.1), h.2⟩

/-- A scanner that stands among the good frames finds all that are still due. -/
theorem endsWith_drop (hframes : ∀ f ∈ frames, f.Whole ∧ f.Unmarked) {least offset k : Nat}
    (h : offset + k ≤ least) (n : Nat) :
    EndsWith ⟨(joined frames).drop k, n⟩ (startingFrom least offset frames) := by
  obtain ⟨m, hdrain⟩ := drain_drop hframes offset k n
  rw [EndsWith, hdrain]
  exact ⟨startingFrom_suffix h offset frames, fun _ => rfl⟩

theorem EndsWith.of_noise {b : UInt8} {rest : Bytes} {n : Nat} {due : List Frame}
    (h : EndsWith ⟨rest, n + 1⟩ due) (hb : Marker.starts b = false) :
    EndsWith ⟨b :: rest, n⟩ due := by
  have hnoise : ∀ c ∈ [b], Marker.starts c = false := by
    intro c hc
    rw [List.mem_singleton.1 hc, hb]
  have hdrain : drain ⟨b :: rest, n⟩ = drain ⟨rest, n + 1⟩ := drain_noise_append hnoise rest n
  rwa [EndsWith, hdrain]

/-- What is left behind a frame that starts at once. -/
theorem eq_of_next_marker {m : Marker} {rest : Bytes} {n : Nat} {f : Frame} {t : Scanner}
    (h : next ⟨m.toByte :: rest, n⟩ = (some f, t)) :
    t = ⟨(m.toByte :: rest).drop f.bytes.length, n⟩ ∧
      0 < f.bytes.length ∧ f.bytes.length ≤ 280 := by
  have hwhole := whole_of_next h
  obtain ⟨left, hsplit, rfl⟩ := next_eq_some_iff.1 h
  rw [sync_marker] at hsplit
  obtain ⟨-, hbytes, hlength, -⟩ := Frame.split?_eq_some_iff.1 hsplit
  have hpos := f.header.frameLength_pos
  have hstream : m.toByte :: rest = f.bytes ++ left := hbytes
  refine ⟨?_, by omega, hwhole.length_le⟩
  rw [sync_marker, hstream, List.drop_left]

/-- A marker in the garbage may announce a frame for which there are not enough bytes. Then there
are so few bytes that no frame starts late enough to be due. -/
theorem endsWith_of_next_none {m : Marker} {rest : Bytes} {n offset : Nat} {t : Scanner}
    (h : next ⟨m.toByte :: (rest ++ joined frames), n⟩ = (none, t)) :
    EndsWith ⟨m.toByte :: (rest ++ joined frames), n⟩
      (startingFrom (offset + 279) offset frames) := by
  -- What waits for a frame is less than one frame.
  have hfew : t.pending.length < 280 := (waiting_of_next_none h).length_lt
  obtain ⟨-, rfl⟩ := next_eq_none_iff.1 h
  rw [sync_marker, List.length_cons, List.length_append] at hfew
  have hnone : startingFrom (offset + 279) offset frames = [] := startingFrom_eq_nil (by omega)
  rw [hnone]
  exact ⟨List.nil_suffix, fun hdue => absurd rfl hdue⟩

/-- The scanner takes one byte of noise or one announced frame after the other. A frame that starts
in the garbage ends less than 280 bytes behind it. -/
theorem endsWith_garbage (hframes : ∀ f ∈ frames, f.Whole ∧ f.Unmarked) (offset n : Nat)
    (garbage : Bytes) :
    EndsWith ⟨garbage ++ joined frames, n⟩ (startingFrom (offset + 279) offset frames) := by
  match garbage with
  | [] => exact endsWith_drop (k := 0) hframes (by omega) n
  | b :: tail =>
    cases hstarts : Marker.ofByte? b with
    | none =>
      have hb : Marker.starts b = false := by rw [Marker.starts, hstarts]; rfl
      -- Noise: one byte less of garbage.
      exact (endsWith_garbage hframes offset (n + 1) tail).of_noise hb
    | some m =>
      obtain rfl := Marker.ofByte?_eq_some_iff.1 hstarts
      rcases hnext : next ⟨m.toByte :: (tail ++ joined frames), n⟩ with ⟨found, t⟩
      cases found with
      | none => exact endsWith_of_next_none hnext
      | some f =>
        obtain ⟨rfl, hpos, hlength⟩ := eq_of_next_marker hnext
        refine EndsWith.of_next ?_ hnext
        rw [← List.cons_append, List.drop_append]
        by_cases hinside : f.bytes.length ≤ (m.toByte :: tail).length
        · -- The announced frame ends in the garbage.
          have hnothing : f.bytes.length - (m.toByte :: tail).length = 0 := by omega
          rw [hnothing, List.drop_zero]
          exact endsWith_garbage hframes offset n _
        · -- It takes bytes of the good frames with it, but not more than 279.
          have hall : (m.toByte :: tail).drop f.bytes.length = [] :=
            List.drop_of_length_le (by omega)
          have htaken : f.bytes.length - (m.toByte :: tail).length ≤ 279 := by
            rw [List.length_cons]
            omega
          rw [hall, List.nil_append]
          exact endsWith_drop hframes (by omega) n
termination_by garbage.length
decreasing_by
  · simp
  · simp only [List.length_drop, List.length_cons]
    omega

/-- **The scanner is back in step after garbage.** Whatever bytes come first, false start markers
included, and whatever good frames without other markers follow them, however the stream is cut: the
frames that are found end with exactly those of the good ones that start 279 bytes behind the
garbage or later, and if there is one of these, nothing is left. -/
theorem realigned_after_garbage (garbage : Bytes) (frames : List Frame)
    (hframes : ∀ f ∈ frames, f.Whole ∧ f.Unmarked) (calls : List Call)
    (htold : told calls = garbage ++ joined frames) :
    let asked := ({} : Scanner).performAll calls
    let found := asked.1 ++ asked.2.drain.1
    let due := startingFrom (garbage.length + 279) garbage.length frames
    (∃ before, found = before ++ due) ∧ (due ≠ [] → asked.2.drain.2.pending = []) := by
  intro asked found due
  -- However the stream is cut, the frames are those of the stream in one piece.
  have hdrain : (found, asked.2.drain.2) = drain ⟨garbage ++ joined frames, 0⟩ :=
    htold ▸ performAll_drain {} calls
  obtain ⟨⟨before, hbefore⟩, hpending⟩ := endsWith_garbage hframes garbage.length 0 garbage
  rw [← hdrain] at hbefore hpending
  exact ⟨⟨before, hbefore.symm⟩, hpending⟩

/-- A frame of version 1 with nothing but zeros in its payload. -/
def zeroFrame (length : UInt8) : Frame where
  header := ⟨.v1, length, 0, 0, 1, 1, 0⟩
  bytes := 0xFE :: length :: 0 :: 1 :: 1 :: 0 :: List.replicate (length.toNat + 2) 0
  checksumOk := Header.checksumMatches ⟨.v1, length, 0, 0, 1, 1, 0⟩
    (0xFE :: length :: 0 :: 1 :: 1 :: 0 :: List.replicate (length.toNat + 2) 0)

theorem length_zeroFrame (length : UInt8) : (zeroFrame length).bytes.length = 8 + length.toNat := by
  simp only [zeroFrame, List.length_cons, List.length_replicate]
  omega

theorem whole_zeroFrame (length : UInt8) : (zeroFrame length).Whole := by
  have hread : Header.ofBytes (zeroFrame length).bytes = .ok (zeroFrame length).header := rfl
  have hlength : (zeroFrame length).bytes.length = (zeroFrame length).header.frameLength := by
    have hannounced : (zeroFrame length).header.frameLength = 6 + length.toNat + 2 :=
      Header.frameLength_v1 rfl
    rw [length_zeroFrame]
    omega
  exact ⟨inspect_eq_ok_iff.2 ⟨hread, hlength⟩, rfl⟩

/-- Such a frame has no further marker, unless its length is one. -/
theorem unmarked_zeroFrame {length : UInt8} (h : length ≠ 0xFD ∧ length ≠ 0xFE) :
    (zeroFrame length).Unmarked := by
  intro b hb
  have hcases : b = length ∨ b = 0 ∨ b = 1 := by
    simp only [zeroFrame, List.tail_cons, List.mem_cons, List.mem_replicate] at hb
    grind
  rcases hcases with rfl | rfl | rfl
  · exact h
  · decide
  · decide

/-- Three good frames, of 263, 16 and 8 bytes. -/
def zeroFrames : List Frame := [zeroFrame 255, zeroFrame 8, zeroFrame 0]

/-- A single marker as garbage makes a signed frame of 279 bytes out of the first two frames. The
last frame starts exactly 279 bytes behind the garbage. -/
theorem realigned_after_false_start :
    (∀ f ∈ zeroFrames, f.Whole ∧ f.Unmarked) ∧
      let asked := ({} : Scanner).performAll (cutAt 100 ([0xFD] ++ joined zeroFrames))
      (∃ before, asked.1 ++ asked.2.drain.1 = before ++ [zeroFrame 0]) ∧
        asked.2.drain.2.pending = [] := by
  have hframes : ∀ f ∈ zeroFrames, f.Whole ∧ f.Unmarked := by
    intro f hf
    have hcases : f = zeroFrame 255 ∨ f = zeroFrame 8 ∨ f = zeroFrame 0 := by
      simpa [zeroFrames] using hf
    rcases hcases with rfl | rfl | rfl <;>
      exact ⟨whole_zeroFrame _, unmarked_zeroFrame (by decide)⟩
  have hdue : startingFrom (([0xFD] : Bytes).length + 279) ([0xFD] : Bytes).length zeroFrames =
      [zeroFrame 0] := by
    simp [startingFrom, zeroFrames, length_zeroFrame]
  obtain ⟨hfound, hpending⟩ :=
    realigned_after_garbage [0xFD] zeroFrames hframes _ (told_cutAt 100 _)
  rw [hdue] at hfound hpending
  exact ⟨hframes, hfound, hpending (List.cons_ne_nil _ _)⟩

end Scanner

end VehicleLink
