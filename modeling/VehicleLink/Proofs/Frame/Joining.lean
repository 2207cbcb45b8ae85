import VehicleLink.Proofs.Frame.Cutting

/-!
# Frames back to back

A frame tells its own length, so that frames which are put one behind the other are cut apart in the
same places, whatever bytes their payloads hold and whether or not their checksums are right
(`Scanner.drain_flatten`). The frames of a scanner are such frames, and so is a datagram that is one
whole frame (`Frame.ofDatagram?`).
-/

namespace VehicleLink.Frame

/-- The frame that a datagram is, if it is one whole frame. -/
def ofDatagram? (datagram : Bytes) : Option Frame :=
  match inspect datagram with
  | .ok header => some ⟨header, datagram, header.checksumMatches datagram⟩
  | .error _ => none

/-- A datagram that is accepted is a frame with the header that it is accepted with. -/
theorem ofDatagram?_of_inspect {datagram : Bytes} {h : Header}
    (hinspect : inspect datagram = .ok h) :
    ofDatagram? datagram = some ⟨h, datagram, h.checksumMatches datagram⟩ := by
  rw [ofDatagram?, hinspect]

/-- A datagram is a frame exactly if the frame is whole and has its bytes. -/
theorem ofDatagram?_eq_some_iff {datagram : Bytes} {f : Frame} :
    ofDatagram? datagram = some f ↔ f.bytes = datagram ∧ f.Whole := by
  constructor
  · intro hread
    unfold ofDatagram? at hread
    split at hread
    · rename_i header hinspect
      cases hread
      exact ⟨rfl, hinspect, rfl⟩
    · cases hread
  · rintro ⟨rfl, hinspect, hchecksum⟩
    rw [ofDatagram?_of_inspect hinspect, ← hchecksum]

theorem Whole.split? {f : Frame} (hf : f.Whole) (rest : Bytes) :
    split? (f.bytes ++ rest) = some (f, rest) := by
  obtain ⟨hread, hlength⟩ := inspect_eq_ok_iff.1 hf.inspect_eq
  exact split?_eq_some_iff.2 ⟨Header.ofBytes_append hread rest, rfl, hlength, hf.checksum_eq⟩

theorem Whole.exists_marker {f : Frame} (hf : f.Whole) :
    ∃ (m : Marker) (rest : Bytes), f.bytes = m.toByte :: rest := by
  obtain ⟨hread, -⟩ := inspect_eq_ok_iff.1 hf.inspect_eq
  rcases Header.ofBytes_eq_ok_iff.1 hread with
    ⟨_, _, _, _, _, _, hbytes, -⟩ | ⟨_, _, _, _, _, _, _, _, _, _, hbytes, -⟩
  · exact ⟨.v1, _, hbytes⟩
  · exact ⟨.v2, _, hbytes⟩

end VehicleLink.Frame

namespace VehicleLink.Scanner

/-- There is no noise in front of a whole frame. -/
theorem next_of_whole {f : Frame} (hf : f.Whole) (rest : Bytes) (n : Nat) :
    next ⟨f.bytes ++ rest, n⟩ = (some f, ⟨rest, n⟩) := by
  obtain ⟨m, tail, hmarker⟩ := hf.exists_marker
  have hsync : sync ⟨f.bytes ++ rest, n⟩ = ⟨f.bytes ++ rest, n⟩ := by
    rw [hmarker, List.cons_append, sync_marker]
  rw [next_eq_some_iff, hsync]
  exact ⟨rest, hf.split? rest, rfl⟩

theorem drain_whole_append {f : Frame} (hf : f.Whole) (rest : Bytes) (n : Nat) :
    drain ⟨f.bytes ++ rest, n⟩ = (f :: (drain ⟨rest, n⟩).1, (drain ⟨rest, n⟩).2) :=
  drain_of_next_some (next_of_whole hf rest n)

/-- **Frames back to back are cut apart where they were joined.** Nothing is dropped, and nothing is
left. -/
theorem drain_flatten {frames : List Frame} (h : ∀ f ∈ frames, f.Whole) (n : Nat) :
    drain ⟨(frames.map Frame.bytes).flatten, n⟩ = (frames, ⟨[], n⟩) := by
  induction frames with
  | nil => exact drain_of_next_none rfl
  | cons f rest ih =>
    have hrest := ih fun g hg => h g (List.mem_cons_of_mem f hg)
    rw [List.map_cons, List.flatten_cons, drain_whole_append (h f List.mem_cons_self), hrest]

end VehicleLink.Scanner
