import VehicleLink.Frame.Checksum

/-!
# Frames

A frame as it was cut from a byte stream: its header, all its bytes, and whether its checksum is
right. A frame with a wrong checksum is still a frame; who receives it decides what that means.
-/

namespace VehicleLink

/-- A frame with what was found out about it. -/
structure Frame where
  header : Frame.Header
  /-- All bytes, from the marker to the end. -/
  bytes : Bytes
  checksumOk : Bool
deriving DecidableEq, Repr

namespace Frame

/-- The payload, as long as the header says. -/
def payload (f : Frame) : Bytes := f.header.payload f.bytes

/-- The frame at the very start of `bytes` and what follows it, or `none` if `bytes` does not start
with a marker or ends before the frame does. -/
def split? (bytes : Bytes) : Option (Frame × Bytes) :=
  match Header.ofBytes bytes with
  | .error _ => none
  | .ok header =>
    let taken := bytes.take header.frameLength
    if taken.length = header.frameLength then
      some ({ header, bytes := taken, checksumOk := header.checksumMatches taken },
        bytes.drop header.frameLength)
    else none

/-- A frame has a checksum at least, so that cutting one off takes bytes away. -/
theorem Header.frameLength_pos (h : Header) : 0 < h.frameLength := by
  simp only [Header.frameLength, checksumLength]
  omega

/-- A frame is cut off exactly where its header says that it ends. -/
theorem split?_eq_some_iff {bytes rest : Bytes} {f : Frame} :
    split? bytes = some (f, rest) ↔
      Header.ofBytes bytes = .ok f.header ∧ bytes = f.bytes ++ rest ∧
        f.bytes.length = f.header.frameLength ∧
        f.checksumOk = f.header.checksumMatches f.bytes := by
  unfold split?
  constructor
  · intro h
    split at h
    · simp at h
    · rename_i header hread
      simp only at h
      split at h
      · rename_i hlength
        simp only [Option.some.injEq, Prod.mk.injEq] at h
        obtain ⟨rfl, rfl⟩ := h
        exact ⟨hread, (List.take_append_drop _ _).symm, hlength, rfl⟩
      · simp at h
  · rintro ⟨hread, rfl, hlength, hchecksum⟩
    -- The checksum is a matter of header and bytes, so that they leave no choice for the frame.
    obtain ⟨header, bytes, checksumOk⟩ := f
    simp only at hread hlength hchecksum
    subst hchecksum
    simp only [hread, ← hlength, List.take_left, List.drop_left, if_true]

/-- Nothing is cut off exactly if the bytes end before the frame that they announce. -/
theorem split?_eq_none_iff {bytes : Bytes} :
    split? bytes = none ↔
      ∀ h, Header.ofBytes bytes = .ok h → bytes.length < h.frameLength := by
  unfold split?
  cases hread : Header.ofBytes bytes with
  | error e => simp
  | ok header =>
    -- There is one header only, so that the bytes are enough or they are not.
    simp only [List.length_take, Except.ok.injEq, forall_eq']
    split
    · rename_i hlength
      simp only [reduceCtorEq, false_iff]
      omega
    · rename_i hlength
      simp only [true_iff]
      omega

/-- What is left behind a frame is shorter than what it was cut from. This is why cutting off frames
comes to an end. -/
theorem length_lt_of_split?_eq_some {bytes rest : Bytes} {f : Frame}
    (h : split? bytes = some (f, rest)) : rest.length < bytes.length := by
  obtain ⟨-, hbytes, hlength, -⟩ := split?_eq_some_iff.1 h
  have hpos := f.header.frameLength_pos
  rw [hbytes, List.length_append]
  omega

end Frame

end VehicleLink
