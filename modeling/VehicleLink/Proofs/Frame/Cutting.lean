import VehicleLink.Proofs.Frame.Whole

/-!
# The cuts of the stream leave no trace

A scanner is told a stream in pieces and asked for frames in between. Asking early does no harm:
what is complete stays complete when more bytes follow (`Frame.split?_append`), and noise that is
dropped early would have been dropped later (`Scanner.sync_push_sync`). So every schedule of calls,
once no frame is left, is as if the whole stream had come in one piece (`performAll_of_finished`).
-/

namespace VehicleLink.Frame

/-- A frame that is complete is cut off in the same place when more bytes follow. -/
theorem split?_append {bytes rest : Bytes} {f : Frame} (h : split? bytes = some (f, rest))
    (more : Bytes) : split? (bytes ++ more) = some (f, rest ++ more) := by
  rw [split?_eq_some_iff] at h ⊢
  obtain ⟨hread, hbytes, hrest⟩ := h
  refine ⟨Header.ofBytes_append hread more, ?_, hrest⟩
  rw [hbytes, List.append_assoc]

end VehicleLink.Frame

namespace VehicleLink.Scanner

variable {s t : Scanner} {f : Frame}

/-! ## Dropping noise -/

/-- Noise in front is dropped and counted, whatever follows it. -/
theorem sync_noise_append {noise : Bytes} (h : ∀ b ∈ noise, Marker.starts b = false) (rest : Bytes)
    (n : Nat) : sync ⟨noise ++ rest, n⟩ = sync ⟨rest, n + noise.length⟩ := by
  have hnoise : ∀ b ∈ noise, (!Marker.starts b) = true := by
    intro b hb
    rw [h b hb, Bool.not_false]
  simp only [sync, List.dropWhile_append_of_pos hnoise, List.takeWhile_append_of_pos hnoise,
    List.length_append, Nat.add_assoc]

/-- What is dropped is noise, and nothing but noise is dropped. -/
theorem exists_noise (s : Scanner) :
    ∃ noise, s.pending = noise ++ s.sync.pending ∧
      s.sync.discarded = s.discarded + noise.length ∧ ∀ b ∈ noise, Marker.starts b = false := by
  refine ⟨s.pending.takeWhile fun b => !Marker.starts b, ?_, rfl, ?_⟩
  · exact List.takeWhile_append_dropWhile.symm
  · intro b hb
    have hall := List.all_takeWhile (p := fun b => !Marker.starts b) (l := s.pending)
    simpa using List.all_eq_true.1 hall b hb

theorem sync_marker (m : Marker) (rest : Bytes) (n : Nat) :
    sync ⟨m.toByte :: rest, n⟩ = ⟨m.toByte :: rest, n⟩ := by
  have hstarts : Marker.starts m.toByte = true := by rw [Marker.starts, Marker.ofByte?_toByte]; rfl
  simp only [sync, List.dropWhile_cons, List.takeWhile_cons, hstarts, Bool.not_true,
    Bool.false_eq_true, if_false, List.length_nil, Nat.add_zero]

/-- What is kept starts with a marker, unless nothing is kept. -/
theorem pending_sync (s : Scanner) :
    s.sync.pending = [] ∨ ∃ (m : Marker) (rest : Bytes), s.sync.pending = m.toByte :: rest := by
  cases hpending : s.sync.pending with
  | nil => exact Or.inl rfl
  | cons b rest =>
    -- The first byte that is kept is not noise.
    have hhead := List.head?_dropWhile_not (fun b => !Marker.starts b) s.pending
    have hdrop : s.pending.dropWhile (fun b => !Marker.starts b) = b :: rest := hpending
    rw [hdrop] at hhead
    simp only [List.head?_cons, Bool.not_eq_false', Marker.starts] at hhead
    obtain ⟨m, hm⟩ := Option.isSome_iff_exists.1 hhead
    exact Or.inr ⟨m, rest, by rw [Marker.ofByte?_eq_some_iff.1 hm]⟩

/-- Noise that is dropped before more bytes come in would have been dropped afterwards. -/
theorem sync_push_sync (s : Scanner) (piece : Bytes) :
    (s.sync.push piece).sync = (s.push piece).sync := by
  obtain ⟨noise, hpending, hdiscarded, hnoise⟩ := s.exists_noise
  have hpush : s.push piece = ⟨noise ++ (s.sync.pending ++ piece), s.discarded⟩ := by
    rw [push, hpending, List.append_assoc]
  rw [hpush, sync_noise_append hnoise, ← hdiscarded]
  rfl

/-! ## Asking for a frame -/

/-- A frame that is found would also be found in front of more bytes. -/
theorem next_push_of_some (h : s.next = (some f, t)) (piece : Bytes) :
    (s.push piece).next = (some f, t.push piece) := by
  obtain ⟨rest, hsplit, rfl⟩ := next_eq_some_iff.1 h
  -- A frame starts with a marker, so that no noise is left to drop in front of it.
  have hsync : (s.push piece).sync = s.sync.push piece := by
    rw [← sync_push_sync]
    rcases s.pending_sync with hnil | ⟨m, rest', hmarker⟩
    · rw [hnil] at hsplit
      cases hsplit
    -- Behind the marker more bytes come in, which is no matter for dropping noise.
    · rw [push, hmarker, List.cons_append, sync_marker]
  rw [next_eq_some_iff, hsync]
  exact ⟨rest ++ piece, Frame.split?_append hsplit piece, rfl⟩

/-- Only what is left behind the noise counts. -/
theorem drain_congr (h : s.sync = t.sync) : s.drain = t.drain := by
  have hnext : s.next = t.next := by rw [next, next, h]
  rw [drain, drain, hnext]

/-- When no frame is found, it makes no difference for what comes in later that it was asked for. -/
theorem drain_push_of_none (h : s.next = (none, t)) (piece : Bytes) :
    (t.push piece).drain = (s.push piece).drain := by
  obtain ⟨-, rfl⟩ := next_eq_none_iff.1 h
  exact drain_congr (s.sync_push_sync piece)

/-- Noise in front of a stream is counted and changes nothing about its frames. -/
theorem drain_noise_append {noise : Bytes} (h : ∀ b ∈ noise, Marker.starts b = false) (rest : Bytes)
    (n : Nat) : drain ⟨noise ++ rest, n⟩ = drain ⟨rest, n + noise.length⟩ :=
  drain_congr (sync_noise_append h rest n)

/-! ## Schedules -/

/-- A call on a scanner. -/
inductive Call where
  | push (piece : Bytes)
  | next
deriving DecidableEq, Repr

/-- The bytes that a call tells. -/
def Call.bytes : Call → Bytes
  | push piece => piece
  | next => []

/-- The stream that some calls tell. -/
def told (calls : List Call) : Bytes := calls.flatMap Call.bytes

/-- The frame that a call yields, if any, and the scanner after it. -/
def perform (s : Scanner) : Call → List Frame × Scanner
  | .push piece => ([], s.push piece)
  | .next => (s.next.1.toList, s.next.2)

/-- The frames that some calls yield, and the scanner after them. -/
def performAll (s : Scanner) : List Call → List Frame × Scanner
  | [] => ([], s)
  | call :: rest =>
    let r := (s.perform call).2.performAll rest
    ((s.perform call).1 ++ r.1, r.2)

/-- The calls end with one that asks for a frame and gets none. -/
def Finished (s : Scanner) (calls : List Call) : Prop :=
  ∃ before, calls = before ++ [.next] ∧ (s.performAll before).2.next.1 = none

theorem performAll_append (s : Scanner) (calls more : List Call) :
    s.performAll (calls ++ more) =
      ((s.performAll calls).1 ++ ((s.performAll calls).2.performAll more).1,
        ((s.performAll calls).2.performAll more).2) := by
  induction calls generalizing s with
  | nil => rfl
  | cons call rest ih =>
    simp only [List.cons_append, performAll, ih, List.append_assoc]

theorem told_append (calls more : List Call) : told (calls ++ more) = told calls ++ told more :=
  List.flatMap_append

/-- A stream in two pieces, and a call for a frame between them. -/
def cutAt (n : Nat) (stream : Bytes) : List Call :=
  [.push (stream.take n), .next, .push (stream.drop n)]

theorem told_cutAt (n : Nat) (stream : Bytes) : told (cutAt n stream) = stream := by
  show stream.take n ++ (stream.drop n ++ []) = stream
  rw [List.append_nil, List.take_append_drop]

theorem push_nil (s : Scanner) : s.push [] = s := by
  rw [push, List.append_nil]

/-- Two pieces are as good as one. -/
theorem push_push (s : Scanner) (piece more : Bytes) :
    (s.push piece).push more = s.push (piece ++ more) := by
  simp only [push, List.append_assoc]

/-- Frames that are cut off before more bytes come in are the first of all of them. -/
theorem drain_push (s : Scanner) (piece : Bytes) :
    (s.push piece).drain =
      (s.drain.1 ++ (s.drain.2.push piece).drain.1, (s.drain.2.push piece).drain.2) := by
  induction s using drain.induct with
  | case1 s t hnext =>
    rw [drain_of_next_none hnext, drain_push_of_none hnext]
    rfl
  | case2 s frame t hnext ih =>
    rw [drain_of_next_some hnext, drain_of_next_some (next_push_of_some hnext piece), ih]
    rfl

/-- Once all frames were cut off, none is left. -/
theorem drain_drain (s : Scanner) : s.drain.2.drain.1 = [] := by
  -- No bytes come in between draining once and draining again.
  have htwice := congrArg Prod.fst (s.drain_push [])
  rw [push_nil, push_nil] at htwice
  exact List.self_eq_append_right.1 htwice

/-- Whatever was asked for in between, the frames so far and those that can still be cut off are the
frames of the whole stream. -/
theorem performAll_drain (s : Scanner) (calls : List Call) :
    ((s.performAll calls).1 ++ (s.performAll calls).2.drain.1, (s.performAll calls).2.drain.2) =
      (s.push (told calls)).drain := by
  induction calls generalizing s with
  | nil => exact congrArg drain s.push_nil.symm
  | cons call rest ih =>
    cases call with
    | push piece =>
      have hpush : s.push (told (.push piece :: rest)) = (s.push piece).push (told rest) :=
        (s.push_push piece (told rest)).symm
      rw [hpush, ← ih (s.push piece)]
      rfl
    | next =>
      have htold : told (.next :: rest) = told rest := rfl
      rw [htold]
      rcases hnext : s.next with ⟨found, t⟩
      have hperform : s.perform .next = (found.toList, t) := by rw [perform, hnext]
      simp only [performAll, hperform]
      cases found with
      | none =>
        -- Asking in vain has dropped noise at most.
        rw [← drain_push_of_none hnext, ← ih t]
        rfl
      | some frame =>
        -- The frame that is found early is the first one of the whole stream.
        rw [drain_of_next_some (next_push_of_some hnext (told rest)), ← ih t]
        rfl

/-- A schedule that has come to its end got all frames of the stream. -/
theorem performAll_of_finished {calls : List Call} (h : s.Finished calls) :
    s.performAll calls = (s.push (told calls)).drain := by
  obtain ⟨before, rfl, hnone⟩ := h
  have hnext : (s.performAll before).2.next = (none, (s.performAll before).2.next.2) :=
    Prod.ext hnone rfl
  have htold : told (before ++ [.next]) = told before := by
    rw [told_append]
    exact List.append_nil _
  -- Since the last call got none, nothing can be cut off any more.
  rw [htold, ← performAll_drain, performAll_append, drain_of_next_none hnext]
  simp only [performAll, perform, hnone, Option.toList_none, List.append_nil]

/-! ## Asking until there is no frame -/

/-- Draining asks for frames one by one, until one more call gets none. -/
theorem performAll_replicate_next (s : Scanner) :
    ∃ t, s.performAll (List.replicate s.drain.1.length .next) = (s.drain.1, t) ∧
      t.next = (none, s.drain.2) := by
  -- Along the frames that draining cuts off, each of which is one call.
  induction s using drain.induct with
  | case1 s t hnext =>
    rw [drain_of_next_none hnext]
    exact ⟨s, rfl, hnext⟩
  | case2 s frame t hnext ih =>
    rw [drain_of_next_some hnext]
    obtain ⟨u, hrest, hnone⟩ := ih
    refine ⟨u, ?_, hnone⟩
    rw [List.length_cons, List.replicate_succ, performAll, perform, hnext]
    simp only [hrest]
    rfl

/-- Enough calls behind any schedule bring it to an end. -/
theorem exists_finished (s : Scanner) (calls : List Call) :
    ∃ n, s.Finished (calls ++ List.replicate n .next) := by
  obtain ⟨t, hdrained, hnone⟩ := (s.performAll calls).2.performAll_replicate_next
  refine ⟨(s.performAll calls).2.drain.1.length + 1,
    calls ++ List.replicate (s.performAll calls).2.drain.1.length .next, ?_, ?_⟩
  · rw [List.replicate_succ', List.append_assoc]
  · rw [performAll_append, hdrained, hnone]

/-- **The frames do not depend on how the stream is cut.** Two schedules tell the same stream in
whatever pieces and ask for frames whenever they like, in the end until there is none: they get the
same frames, have dropped the same number of bytes and keep the same bytes. Every schedule comes to
such an end if frames are asked for often enough. -/
theorem same_frames_however_cut (s : Scanner) :
    (∀ calls others, told calls = told others → s.Finished calls → s.Finished others →
      s.performAll calls = s.performAll others) ∧
    ∀ calls, ∃ n, s.Finished (calls ++ List.replicate n .next) := by
  refine ⟨?_, s.exists_finished⟩
  intro calls others htold hcalls hothers
  rw [performAll_of_finished hcalls, performAll_of_finished hothers, htold]

/-- Noise, a frame, noise and the start of another frame, told in one piece. -/
def wholeStream : List Call :=
  [.push [0x11, 0xFE, 0, 7, 1, 1, 0, 0xAA, 0xBB, 0x22, 0xFD, 0], .next, .next]

/-- The same stream, cut in front of the header's end and inside the checksum. -/
def cutStream : List Call :=
  [.next, .push [0x11, 0xFE], .next, .push [0, 7], .push [1, 1, 0, 0xAA], .next, .next,
    .push [0xBB, 0x22, 0xFD], .next, .push [0], .next]

/-- One frame is found, however the stream is told. -/
theorem same_frames_cut_stream :
    told wholeStream = told cutStream ∧ ({} : Scanner).Finished wholeStream ∧
      ({} : Scanner).Finished cutStream ∧
      (({} : Scanner).performAll wholeStream).1.length = 1 ∧
      ({} : Scanner).performAll wholeStream = ({} : Scanner).performAll cutStream := by
  have hwhole : ({} : Scanner).Finished wholeStream := ⟨wholeStream.dropLast, rfl, by decide⟩
  have hcut : ({} : Scanner).Finished cutStream := ⟨cutStream.dropLast, rfl, by decide⟩
  have htold : told wholeStream = told cutStream := by decide
  exact ⟨htold, hwhole, hcut, by decide,
    (same_frames_however_cut {}).1 wholeStream cutStream htold hwhole hcut⟩

end VehicleLink.Scanner
