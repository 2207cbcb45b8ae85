import VehicleLink.Aggregate.Basic
import VehicleLink.Proofs.Aggregate.Header

/-!
# What waits in an aggregate

An aggregate counts its bytes and stays within its limit (`Aggregate.Sized`). A frame goes in whole
or not at all: it goes in if it fits behind the others (`append_of_fits`), and a frame that is
refused although it is within the limit is one for which there is no room yet
(`Sized.append_of_full`). What is sent carries exactly the waiting frames (`Sized.decode_take`),
because the number of bytes can be told in the header.
-/

namespace VehicleLink.Aggregate

/-- The number of bytes is kept right, within a limit that the header can tell. -/
structure Sized (a : Aggregate) : Prop where
  size_eq : a.size = a.payload.length
  size_le : a.size ≤ a.limit
  limit_le : a.limit ≤ maxLimit

variable {a b : Aggregate} {frame : Bytes} {micros : UInt64}

theorem sized_of_limit {limit : Nat} (h : limit ≤ maxLimit) :
    Sized { limit } :=
  ⟨rfl, Nat.zero_le limit, h⟩

theorem sized_empty (limit : Nat) : (empty limit).Sized :=
  sized_of_limit (Nat.min_le_right limit maxLimit)

theorem isEmpty_iff : a.isEmpty = true ↔ a.frames = [] := List.isEmpty_iff

/-! ## Adding a frame -/

/-- A frame that fits behind the others goes in. -/
theorem append_of_fits (h : a.size + frame.length ≤ a.limit) :
    a.append frame micros =
      .ok { a with
        frames := a.frames ++ [frame]
        size := a.size + frame.length
        receivedMicros := if a.isEmpty then micros else a.receivedMicros } := by
  have hlong : ¬ a.limit < frame.length := by omega
  have hfull : ¬ a.remaining < frame.length := by
    unfold remaining
    omega
  unfold append
  rw [if_neg hlong, if_neg hfull]

/-- A frame within the limit for which there is no room yet is refused as such. -/
theorem Sized.append_of_full (ha : a.Sized) (hlong : frame.length ≤ a.limit)
    (hfull : a.limit < a.size + frame.length) :
    a.append frame micros = .error (.aggregateOverflow frame.length a.remaining) := by
  have hsize := ha.size_le
  have hremaining : a.remaining < frame.length := by
    unfold remaining
    omega
  unfold Aggregate.append
  rw [if_neg (Nat.not_lt.2 hlong), if_pos hremaining]

/-- A frame that goes in is the last of those that wait. If it is the first, it tells the time. -/
theorem eq_of_append (h : a.append frame micros = .ok b) :
    b = { a with
      frames := a.frames ++ [frame]
      size := a.size + frame.length
      receivedMicros := if a.isEmpty then micros else a.receivedMicros } := by
  unfold append at h
  split at h
  · simp at h
  · split at h
    · simp at h
    · exact (Except.ok.inj h).symm

theorem frames_of_append (h : a.append frame micros = .ok b) :
    b.frames = a.frames ++ [frame] ∧ b.limit = a.limit := by
  rw [eq_of_append h]
  exact ⟨rfl, rfl⟩

/-- Adding keeps the count right. A frame that went in must have fitted, since it would have been
refused otherwise. -/
theorem Sized.append (ha : a.Sized) (h : a.append frame micros = .ok b) : b.Sized := by
  have hroom : a.size + frame.length ≤ a.limit := by
    -- Each way of not fitting has its own refusal.
    refine Nat.le_of_not_lt fun hfull => ?_
    by_cases hlong : frame.length ≤ a.limit
    · rw [ha.append_of_full hlong hfull] at h
      cases h
    · unfold Aggregate.append at h
      rw [if_pos (Nat.lt_of_not_le hlong)] at h
      cases h
  rw [append_of_fits hroom, Except.ok.injEq] at h
  subst h
  refine ⟨?_, hroom, ha.limit_le⟩
  show a.size + frame.length = (a.frames ++ [frame]).flatten.length
  have hsize : a.size = a.frames.flatten.length := ha.size_eq
  rw [List.flatten_append, List.length_append, List.flatten_singleton, hsize]

theorem Sized.addBlocked (ha : a.Sized) (blocked : UInt64) : (a.addBlocked blocked).Sized :=
  ⟨ha.size_eq, ha.size_le, ha.limit_le⟩

/-! ## Taking the frames -/

variable {sequence : UInt32} {sentMicros : UInt64}

theorem take?_of_eq_nil (h : a.frames = []) : a.take? sequence sentMicros = none :=
  if_pos (isEmpty_iff.2 h)

theorem take?_of_ne_nil (h : a.frames ≠ []) :
    a.take? sequence sentMicros =
      some ((a.header sequence sentMicros).encode ++ a.payload, { limit := a.limit }) :=
  if_neg fun hempty => h (isEmpty_iff.1 hempty)

/-- The number of bytes is told in the header as it is. -/
theorem Sized.payloadLength_header (ha : a.Sized) (sequence : UInt32) (sentMicros : UInt64) :
    (a.header sequence sentMicros).payloadLength.toNat = a.payload.length := by
  -- The greatest limit is what a word of 16 bits can tell.
  have hfits : a.size < UInt16.size :=
    Nat.lt_succ_of_le (Nat.le_trans ha.size_le ha.limit_le)
  show (UInt16.ofNat a.size).toNat = a.payload.length
  rw [UInt16.toNat_ofNat_of_lt' hfits, ha.size_eq]

/-- The datagram that carries the waiting frames is read back to its header and these frames. -/
theorem Sized.decode_take (ha : a.Sized) (sequence : UInt32) (sentMicros : UInt64) :
    decode ((a.header sequence sentMicros).encode ++ a.payload) =
      .ok (a.header sequence sentMicros, a.payload) :=
  decode_encode_append (ha.payloadLength_header sequence sentMicros).symm

end VehicleLink.Aggregate
