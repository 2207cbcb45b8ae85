import VehicleLink.Frame.Basic

/-!
# Finding frames in a byte stream

A serial line delivers bytes in pieces that know nothing of frames, mixed with noise. A `Scanner`
keeps what has not been cut into frames yet: bytes before a start marker are dropped and counted,
and a frame is cut off once it is complete, whatever its checksum.

`Scanner.drain` recurses on the number of pending bytes, which every frame lowers.
-/

namespace VehicleLink

/-- Whether a byte may start a frame. -/
def Marker.starts (b : UInt8) : Bool := (Marker.ofByte? b).isSome

/-- All bytes but the two markers are noise. -/
theorem Marker.starts_eq_false_iff {b : UInt8} : starts b = false ↔ b ≠ 0xFD ∧ b ≠ 0xFE := by
  unfold starts ofByte?
  by_cases hv2 : b = 0xFD
  · simp [hv2]
  · by_cases hv1 : b = 0xFE <;> simp [hv1, hv2]

/-- What is left of the stream after the frames that were cut off. -/
structure Scanner where
  /-- The bytes that belong to no frame yet. -/
  pending : Bytes := []
  /-- The number of noise bytes dropped so far. -/
  discarded : Nat := 0
deriving DecidableEq, Repr

namespace Scanner

/-- Takes in the next piece of the stream. Nothing is dropped before a frame is asked for. -/
def push (s : Scanner) (piece : Bytes) : Scanner :=
  { s with pending := s.pending ++ piece }

/-- Drops the noise in front of the first start marker. -/
def sync (s : Scanner) : Scanner where
  pending := s.pending.dropWhile fun b => !Marker.starts b
  discarded := s.discarded + (s.pending.takeWhile fun b => !Marker.starts b).length

/-- Drops leading noise and cuts off the frame that follows it, if it is complete. -/
def next (s : Scanner) : Option Frame × Scanner :=
  match Frame.split? s.sync.pending with
  -- The noise is gone, whether or not a frame follows it.
  | none => (none, s.sync)
  | some (frame, rest) => (some frame, { s.sync with pending := rest })

theorem length_pending_sync_le (s : Scanner) : s.sync.pending.length ≤ s.pending.length :=
  (List.dropWhile_suffix _).length_le

/-- A frame is cut off exactly if the bytes behind the noise start with it, and then what follows is
pending. -/
theorem next_eq_some_iff {s t : Scanner} {f : Frame} :
    s.next = (some f, t) ↔
      ∃ rest, Frame.split? s.sync.pending = some (f, rest) ∧ t = ⟨rest, s.sync.discarded⟩ := by
  unfold next
  cases hsplit : Frame.split? s.sync.pending with
  | none => simp
  | some cut =>
    obtain ⟨frame, rest⟩ := cut
    simp only [Prod.mk.injEq, Option.some.injEq]
    constructor
    · rintro ⟨rfl, rfl⟩
      exact ⟨rest, ⟨rfl, rfl⟩, rfl⟩
    · rintro ⟨_, ⟨rfl, rfl⟩, rfl⟩
      exact ⟨rfl, rfl⟩

theorem next_eq_none_iff {s t : Scanner} :
    s.next = (none, t) ↔ Frame.split? s.sync.pending = none ∧ t = s.sync := by
  unfold next
  cases hsplit : Frame.split? s.sync.pending with
  | none => simp [eq_comm]
  | some cut => simp

/-- Each frame takes bytes out of those that are pending, which is the measure of `drain`. -/
theorem length_pending_lt_of_next {s t : Scanner} {f : Frame} (h : s.next = (some f, t)) :
    t.pending.length < s.pending.length := by
  obtain ⟨rest, hsplit, rfl⟩ := next_eq_some_iff.1 h
  exact Nat.lt_of_lt_of_le (Frame.length_lt_of_split?_eq_some hsplit) (length_pending_sync_le s)

/-- Cuts off frames until none is complete. -/
def drain (s : Scanner) : List Frame × Scanner :=
  match _h : s.next with
  | (none, t) => ([], t)
  | (some frame, t) =>
    let rest := t.drain
    (frame :: rest.1, rest.2)
termination_by s.pending.length
decreasing_by exact length_pending_lt_of_next _h

end Scanner

end VehicleLink
