import VehicleLink.Proofs.Frame.Cutting

/-!
# Every byte is accounted for

A scanner takes the stream apart into frames, noise and what is still pending. `Account` keeps the
books of one stream: every call either adds to what is pending, or moves bytes from there to the
noise behind the last frame, or makes a frame of them (`Accounted.perform`). Once no frame is found,
what is pending is the beginning of one (`waiting_of_next_none`), so that there is never much of it.
A frame has at least eight bytes, which bounds how many can be cut off (`length_drain_le`).
-/

namespace VehicleLink.Frame

/-- The shortest frame is one of version 1 without payload. -/
def minLength : Nat := 8

theorem Header.le_frameLength (h : Header) : minLength ≤ h.frameLength := by
  -- A header of six bytes and a checksum of two are the least there can be.
  have hstart : 6 ≤ h.marker.headerLength := by cases h.marker <;> decide
  unfold frameLength payloadEnd payloadStart checksumLength minLength
  omega

/-- A marker and enough bytes behind it are a header, whatever these bytes are. -/
theorem Header.exists_ofBytes {m : Marker} {rest : Bytes} (h : 9 ≤ rest.length) :
    ∃ header, ofBytes (m.toByte :: rest) = .ok header := by
  match rest, h with
  | b₁ :: b₂ :: b₃ :: b₄ :: b₅ :: b₆ :: b₇ :: b₈ :: b₉ :: rest, _ =>
    cases m with
    | v1 => exact ⟨_, rfl⟩
    | v2 => exact ⟨_, rfl⟩

end VehicleLink.Frame

namespace VehicleLink.Scanner

variable {s t : Scanner} {f : Frame} {stream : Bytes} {frames : List Frame}

/-! ## The books of a stream -/

/-- A frame of the stream and the noise in front of it. -/
structure Segment where
  noise : Bytes
  frame : Frame

/-- The bytes of a segment, as they are in the stream. -/
def Segment.bytes (g : Segment) : Bytes := g.noise ++ g.frame.bytes

/-- The stream is some segments, noise behind the last frame, and what is pending. -/
structure Account (stream : Bytes) (frames : List Frame) (s : Scanner) (segments : List Segment)
    (trailing : Bytes) : Prop where
  /-- Nothing of the stream is lost, made up or moved. -/
  stream_eq : stream = segments.flatMap Segment.bytes ++ trailing ++ s.pending
  frames_eq : segments.map Segment.frame = frames
  /-- Noise has no marker in it. -/
  unmarked : ∀ noise ∈ segments.map Segment.noise ++ [trailing], ∀ b ∈ noise, b ≠ 0xFD ∧ b ≠ 0xFE
  discarded_eq : (segments.map Segment.noise ++ [trailing]).flatten.length = s.discarded

/-- The books of the stream are in order. -/
def Accounted (stream : Bytes) (frames : List Frame) (s : Scanner) : Prop :=
  ∃ segments trailing, Account stream frames s segments trailing

theorem accounted_start : Accounted [] [] {} :=
  ⟨[], [], rfl, rfl, by simp, rfl⟩

theorem Accounted.push (h : Accounted stream frames s) (piece : Bytes) :
    Accounted (stream ++ piece) frames (s.push piece) := by
  obtain ⟨segments, trailing, h⟩ := h
  refine ⟨segments, trailing, ?_, h.frames_eq, h.unmarked, h.discarded_eq⟩
  rw [h.stream_eq, List.append_assoc]
  rfl

/-- Noise that is dropped joins the noise behind the last frame. -/
theorem Accounted.sync (h : Accounted stream frames s) : Accounted stream frames s.sync := by
  obtain ⟨segments, trailing, h⟩ := h
  -- What is dropped is counted, and has no marker in it.
  obtain ⟨noise, hpending, hdiscarded, hnoise⟩ := s.exists_noise
  refine ⟨segments, trailing ++ noise, ?_, h.frames_eq, ?_, ?_⟩
  · rw [h.stream_eq, hpending]
    simp only [List.append_assoc]
  · intro part hpart b hb
    rcases List.mem_append.1 hpart with hold | hlast
    · exact h.unmarked part (List.mem_append_left _ hold) b hb
    · -- Only the noise behind the last frame has changed.
      rw [List.mem_singleton.1 hlast] at hb
      rcases List.mem_append.1 hb with htrailing | hnew
      · exact h.unmarked trailing (by simp) b htrailing
      · exact Marker.starts_eq_false_iff.1 (hnoise b hnew)
  · have hcount := h.discarded_eq
    simp only [List.flatten_append, List.flatten_singleton, List.length_append] at hcount ⊢
    omega

/-- A frame that is cut off makes a segment with the noise in front of it. -/
theorem Accounted.cut (h : Accounted stream frames s) {rest : Bytes}
    (hsplit : Frame.split? s.pending = some (f, rest)) :
    Accounted stream (frames ++ [f]) ⟨rest, s.discarded⟩ := by
  obtain ⟨segments, trailing, h⟩ := h
  obtain ⟨-, hpending, -⟩ := Frame.split?_eq_some_iff.1 hsplit
  -- The noise in front of the frame and the frame make one more segment, and no noise trails.
  refine ⟨segments ++ [⟨trailing, f⟩], [], ?_, ?_, ?_, ?_⟩
  · rw [h.stream_eq, hpending]
    simp [Segment.bytes]
  · rw [List.map_append, h.frames_eq]
    rfl
  · intro part hpart b hb
    rcases List.mem_append.1 hpart with hold | hlast
    · exact h.unmarked part (by simpa using hold) b hb
    · rw [List.mem_singleton.1 hlast] at hb
      cases hb
  · rw [← h.discarded_eq]
    simp

/-- One call: bytes come in, or noise is dropped and a frame cut off if there is one. -/
theorem Accounted.perform (h : Accounted stream frames s) (call : Call) :
    Accounted (stream ++ call.bytes) (frames ++ (s.perform call).1) (s.perform call).2 := by
  cases call with
  | push piece =>
    simpa only [Call.bytes, Scanner.perform, List.append_nil] using h.push piece
  | next =>
    simp only [Call.bytes, List.append_nil, Scanner.perform]
    -- Dropping noise comes first in both cases; a frame is then cut off, or there is none.
    rcases hnext : s.next with ⟨found, t⟩
    cases found with
    | none =>
      obtain ⟨-, rfl⟩ := next_eq_none_iff.1 hnext
      simpa only [Option.toList_none, List.append_nil] using h.sync
    | some frame =>
      obtain ⟨rest, hsplit, rfl⟩ := next_eq_some_iff.1 hnext
      exact h.sync.cut hsplit

theorem Accounted.performAll (h : Accounted stream frames s) (calls : List Call) :
    Accounted (stream ++ told calls) (frames ++ (s.performAll calls).1) (s.performAll calls).2 := by
  induction calls generalizing s stream frames with
  | nil => simpa [told, Scanner.performAll] using h
  | cons call rest ih =>
    have hrest := ih (h.perform call)
    simpa only [told, List.flatMap_cons, Scanner.performAll, List.append_assoc] using hrest

/-- Draining is asking until nothing more is found. -/
theorem Accounted.drain (h : Accounted stream frames s) :
    Accounted stream (frames ++ s.drain.1) s.drain.2 := by
  induction s using drain.induct generalizing frames with
  | case1 s t hnext =>
    obtain ⟨-, rfl⟩ := next_eq_none_iff.1 hnext
    rw [drain_of_next_none hnext, List.append_nil]
    exact h.sync
  | case2 s frame t hnext ih =>
    obtain ⟨rest, hsplit, ht⟩ := next_eq_some_iff.1 hnext
    have hrest := ih (ht ▸ h.sync.cut hsplit)
    rw [List.append_assoc, List.singleton_append] at hrest
    rw [drain_of_next_some hnext]
    exact hrest

/-- Bytes are noise, in a frame or pending. -/
theorem Accounted.length_eq (h : Accounted stream frames s) :
    stream.length = s.discarded + (frames.flatMap Frame.bytes).length + s.pending.length := by
  obtain ⟨segments, trailing, h⟩ := h
  have hsegments : (segments.flatMap Segment.bytes).length =
      (segments.map Segment.noise).flatten.length +
        ((segments.map Segment.frame).flatMap Frame.bytes).length := by
    -- The sum is a matter of the segments alone, and holds of any of them.
    clear h
    induction segments with
    | nil => rfl
    | cons g rest ih =>
      -- Segment by segment, noise and frame are counted apart.
      simp only [List.flatMap_cons, List.map_cons, List.flatten_cons, List.length_append, ih,
        Segment.bytes]
      omega
  rw [h.stream_eq, ← h.frames_eq, ← h.discarded_eq]
  simp only [List.length_append, List.flatten_append, List.flatten_singleton, hsegments]
  omega

/-! ## What is cut off -/

/-- The frames of a schedule are those of the calls that find one. -/
theorem exists_next_of_mem_performAll {calls : List Call} (h : f ∈ (s.performAll calls).1) :
    ∃ t u : Scanner, t.next = (some f, u) := by
  induction calls generalizing s with
  | nil => cases h
  | cons call rest ih =>
    rcases List.mem_append.1 h with hfirst | hrest
    · cases call with
      | push piece => cases hfirst
      | next => exact ⟨s, s.next.2, Prod.ext (Option.mem_toList.1 hfirst) rfl⟩
    · exact ih hrest

theorem wellFormed_of_next (h : s.next = (some f, t)) :
    Frame.inspect f.bytes = .ok f.header ∧ Frame.minLength ≤ f.bytes.length ∧
      f.bytes.length ≤ Frame.maxLength ∧ f.checksumOk = f.header.checksumMatches f.bytes := by
  have hwhole := whole_of_next h
  obtain ⟨-, hlength⟩ := Frame.inspect_eq_ok_iff.1 hwhole.inspect_eq
  exact ⟨hwhole.inspect_eq, hlength ▸ f.header.le_frameLength, hwhole.length_le,
    hwhole.checksum_eq⟩

/-- Every frame takes at least eight of the pending bytes. -/
theorem length_pending_of_next (h : s.next = (some f, t)) :
    t.pending.length + Frame.minLength ≤ s.pending.length := by
  have hlong := (wellFormed_of_next h).2.1
  obtain ⟨rest, hsplit, rfl⟩ := next_eq_some_iff.1 h
  obtain ⟨-, hpending, -⟩ := Frame.split?_eq_some_iff.1 hsplit
  have hsync := s.length_pending_sync_le
  rw [hpending, List.length_append] at hsync
  show rest.length + Frame.minLength ≤ s.pending.length
  omega

/-- There are at most an eighth as many frames as pending bytes. Induction along `drain`. -/
theorem length_drain_le (s : Scanner) :
    s.drain.1.length * Frame.minLength ≤ s.pending.length := by
  induction s using drain.induct with
  | case1 s t hnext =>
    rw [drain_of_next_none hnext]
    exact Nat.zero_le _
  | case2 s frame t hnext ih =>
    -- The frame that was cut off accounts for eight of the bytes that are gone.
    have hless := length_pending_of_next hnext
    rw [drain_of_next_some hnext, List.length_cons, Nat.succ_mul]
    omega

/-! ## What stays pending -/

/-- Nothing is pending, or the beginning of a frame that will be longer, however it goes on. -/
def Waiting (s : Scanner) : Prop :=
  s.pending = [] ∨
    ∃ (m : Marker) (rest : Bytes), s.pending = m.toByte :: rest ∧
      ∀ more header, Frame.Header.ofBytes (s.pending ++ more) = .ok header →
        s.pending.length < header.frameLength

/-- When no frame is found, what is left starts with a marker or is nothing, and is too short for
its frame. -/
theorem waiting_of_next_none (h : s.next = (none, t)) : t.Waiting := by
  obtain ⟨hsplit, rfl⟩ := next_eq_none_iff.1 h
  rcases s.pending_sync with hnil | ⟨m, rest, hmarker⟩
  · exact Or.inl hnil
  · refine Or.inr ⟨m, rest, hmarker, ?_⟩
    intro more header hread
    refine Nat.lt_of_not_le fun hcomplete => ?_
    -- All of the frame would be pending, its header included, and it would have been cut off.
    have hheader : Frame.Header.ofBytes s.sync.pending = .ok header := by
      have hagain := Frame.Header.ofBytes_take hread
        (Nat.le_trans header.headerLength_le_frameLength hcomplete)
      rwa [List.take_left] at hagain
    exact Nat.not_lt.2 hcomplete (Frame.split?_eq_none_iff.1 hsplit header hheader)

/-- Less than one frame is pending, as there is no longer one to wait for. -/
theorem Waiting.length_lt (h : s.Waiting) : s.pending.length < Frame.maxLength := by
  rcases h with hnil | ⟨m, rest, hmarker, hlonger⟩
  · rw [hnil]
    decide
  · -- Some bytes complete the header, and with any header the frame is longer than what is pending.
    obtain ⟨header, hread⟩ : ∃ header,
        Frame.Header.ofBytes (m.toByte :: (rest ++ List.replicate 9 0)) = .ok header :=
      Frame.Header.exists_ofBytes (by simp)
    rw [← List.cons_append, ← hmarker] at hread
    exact Nat.lt_of_lt_of_le (hlonger _ header hread) header.frameLength_le

/-! ## All schedules -/

/-- **Every byte is accounted for, and only whole frames are cut off.** Whenever pieces of a stream
were told and frames were asked for: the stream is the frames, the counted noise between them, in
which there is no marker, and what is pending. Every frame is a whole datagram with the header that
it is said to have, and its checksum was judged as it is. When no frame is found, what is pending is
nothing or the beginning of a longer frame. Draining takes one call for each frame and one more,
with at most an eighth as many frames as there are bytes. -/
theorem every_byte_accounted_for (calls : List Call) :
    let frames := (({} : Scanner).performAll calls).1
    let s := (({} : Scanner).performAll calls).2
    (∃ segments trailing, Account (told calls) frames s segments trailing) ∧
    (∀ f ∈ frames, Frame.inspect f.bytes = .ok f.header ∧
      8 ≤ f.bytes.length ∧ f.bytes.length ≤ 280 ∧
      f.checksumOk = f.header.checksumMatches f.bytes) ∧
    (∀ t, s.next = (none, t) → t.Waiting ∧ t.pending.length < 280) ∧
    ∃ t, s.performAll (List.replicate s.drain.1.length .next) = (s.drain.1, t) ∧
      t.next = (none, s.drain.2) ∧ s.drain.1.length ≤ s.pending.length / 8 := by
  intro frames s
  refine ⟨?_, ?_, ?_, ?_⟩
  · show Accounted (told calls) frames s
    simpa only [List.nil_append] using accounted_start.performAll calls
  · intro f hf
    obtain ⟨t, u, hnext⟩ := exists_next_of_mem_performAll hf
    exact wellFormed_of_next hnext
  · intro t hnone
    have hwaiting := waiting_of_next_none hnone
    exact ⟨hwaiting, hwaiting.length_lt⟩
  -- A frame has eight bytes at least, which bounds how many can be cut off.
  · obtain ⟨t, hdrained, hnone⟩ := s.performAll_replicate_next
    exact ⟨t, hdrained, hnone, (Nat.le_div_iff_mul_le (by decide)).2 s.length_drain_le⟩

end VehicleLink.Scanner
