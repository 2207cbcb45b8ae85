import Mathlib.Data.List.Infix
import VehicleLink.LittleEndian

/-!
# Cutting a sequence of frames into batches

Frames that come one after the other are cut into batches greedily: a batch is the shortest
beginning of what is left that has more bytes than a threshold (`firstOver?`), and what never gets
there is left over (`cutUp`). Nothing in this depends on how the frames come in, which is what
`cutUp_append` says: cutting up some frames, and later what was left over with more frames behind
it, gives the same batches as cutting up all frames at once.
-/

namespace VehicleLink.Aggregate

/-- The shortest beginning that has more bytes than the threshold. -/
def firstOver? (threshold : Nat) (frames : List Bytes) : Option (List Bytes) :=
  frames.inits.find? fun first => threshold < first.flatten.length

section First

variable {threshold : Nat} {frames first : List Bytes}

/-- What is found is a beginning of the frames and has more bytes than the threshold. -/
theorem firstOver?_eq_some (h : firstOver? threshold frames = some first) :
    first <+: frames ∧ threshold < first.flatten.length :=
  ⟨(List.mem_inits _ _).1 (List.mem_of_find?_eq_some h), by simpa using List.find?_some h⟩

/-- If no beginning has more bytes than the threshold, then all frames together have not. -/
theorem firstOver?_eq_none_iff :
    firstOver? threshold frames = none ↔ frames.flatten.length ≤ threshold := by
  unfold firstOver?
  simp only [List.find?_eq_none, List.mem_inits, decide_eq_true_eq, Nat.not_lt]
  constructor
  · exact fun h => h frames (List.prefix_refl frames)
  · exact fun h first hfirst => Nat.le_trans hfirst.flatten.length_le h

theorem ne_nil_of_firstOver? (h : firstOver? threshold frames = some first) : first ≠ [] := by
  rintro rfl
  exact absurd (firstOver?_eq_some h).2 (Nat.not_lt_zero threshold)

/-- Frames that come later do not change the first batch. -/
theorem firstOver?_append (h : firstOver? threshold frames = some first) (more : List Bytes) :
    firstOver? threshold (frames ++ more) = some first := by
  unfold firstOver? at h ⊢
  -- The beginnings of the first frames are looked at first.
  rw [List.inits_append, List.find?_append, h]
  rfl

/-- One more frame is what the batch was short of, or not even that is enough. -/
theorem firstOver?_concat (h : frames.flatten.length ≤ threshold) (frame : Bytes) :
    firstOver? threshold (frames ++ [frame]) =
      if threshold < (frames ++ [frame]).flatten.length then some (frames ++ [frame])
      else none := by
  have hnone : frames.inits.find? (fun first => threshold < first.flatten.length) = none :=
    firstOver?_eq_none_iff.2 h
  -- Besides the beginnings of the frames before it there is only one beginning to look at, that of
  -- all frames.
  have hone : [frame].inits = [[], [frame]] := rfl
  unfold firstOver?
  rw [List.inits_append, List.find?_append, hnone, hone]
  simp only [List.map_cons, List.map_nil, List.tail_cons, Option.none_or, List.find?_singleton,
    decide_eq_true_eq]

end First

/-- The batches that the frames are cut into, and the frames that are left over. -/
def cutUp (threshold : Nat) (frames : List Bytes) : List (List Bytes) × List Bytes :=
  match _h : firstOver? threshold frames with
  | none => ([], frames)
  | some first =>
    let cut := cutUp threshold (frames.drop first.length)
    (first :: cut.1, cut.2)
termination_by frames.length
decreasing_by
  have hpos : 0 < first.length := List.length_pos_of_ne_nil (ne_nil_of_firstOver? _h)
  have hle : first.length ≤ frames.length := (firstOver?_eq_some _h).1.length_le
  rw [List.length_drop]
  omega

variable {threshold : Nat} {frames first : List Bytes}

theorem cutUp_of_none (h : firstOver? threshold frames = none) :
    cutUp threshold frames = ([], frames) := by
  rw [cutUp]
  split
  · rfl
  · rename_i hsome
    exact nomatch h.symm.trans hsome

/-- The first batch is cut off, and the frames behind it are cut up in turn. -/
theorem cutUp_of_some (h : firstOver? threshold frames = some first) :
    cutUp threshold frames =
      (first :: (cutUp threshold (frames.drop first.length)).1,
        (cutUp threshold (frames.drop first.length)).2) := by
  rw [cutUp]
  split
  · rename_i hnone
    exact nomatch h.symm.trans hnone
  · rename_i hsome
    cases h.symm.trans hsome
    rfl

/-- Frames that are not enough for a batch are left over. -/
theorem cutUp_of_le (h : frames.flatten.length ≤ threshold) :
    cutUp threshold frames = ([], frames) :=
  cutUp_of_none (firstOver?_eq_none_iff.2 h)

/-- What is left over is not enough for a batch. -/
theorem length_left_le (threshold : Nat) (frames : List Bytes) :
    (cutUp threshold frames).2.flatten.length ≤ threshold := by
  induction frames using cutUp.induct threshold with
  | case1 frames hnone =>
    rw [cutUp_of_none hnone]
    exact firstOver?_eq_none_iff.1 hnone
  | case2 frames first hsome ih =>
    rw [cutUp_of_some hsome]
    exact ih

/-- What is left over waits for the frames that come later. -/
theorem cutUp_append (threshold : Nat) (frames more : List Bytes) :
    cutUp threshold (frames ++ more) =
      ((cutUp threshold frames).1 ++ (cutUp threshold ((cutUp threshold frames).2 ++ more)).1,
        (cutUp threshold ((cutUp threshold frames).2 ++ more)).2) := by
  -- Batch by batch; the batches of the first frames stay what they are.
  induction frames using cutUp.induct threshold with
  | case1 frames hnone =>
    rw [cutUp_of_none hnone]
    rfl
  | case2 frames first hsome ih =>
    have hle : first.length ≤ frames.length := (firstOver?_eq_some hsome).1.length_le
    rw [cutUp_of_some (firstOver?_append hsome more), List.drop_append_of_le_length hle, ih,
      cutUp_of_some hsome]
    rfl

/-- What one more frame brings: a batch of all that was left over, or nothing yet. -/
theorem cutUp_concat (h : frames.flatten.length ≤ threshold) (frame : Bytes) :
    cutUp threshold (frames ++ [frame]) =
      if threshold < (frames ++ [frame]).flatten.length then ([frames ++ [frame]], [])
      else ([], frames ++ [frame]) := by
  have hfirst := firstOver?_concat h frame
  split
  · rename_i hover
    rw [if_pos hover] at hfirst
    -- The batch takes all frames, and nothing is left to cut up.
    rw [cutUp_of_some hfirst, List.drop_length, cutUp_of_le (Nat.zero_le threshold)]
  · rename_i hnot
    rw [if_neg hnot] at hfirst
    exact cutUp_of_none hfirst

end VehicleLink.Aggregate
