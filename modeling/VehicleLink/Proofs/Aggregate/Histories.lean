import VehicleLink.Proofs.Aggregate.Collecting

/-!
# What a batch owes to its history

An aggregate is filled, made to wait and emptied in whatever order. What it holds is a matter of
what happened since it was last emptied, and `sinceTaken` reads that off the events alone, going
back from the latest. The frames that went in since then wait, the first of them tells the time of
receipt, and all the waiting is summed up (`Follows`). Calls that fail leave no trace, an emptying
that finds no frame included: the time waited before it goes into the next batch.
-/

namespace VehicleLink

/-- A sum that does not fit into a word is the greatest word. -/
theorem toNat_saturatingAdd (a b : UInt64) :
    (saturatingAdd a b).toNat = min (a.toNat + b.toNat) (UInt64.size - 1) := by
  have hfits : min (a.toNat + b.toNat) (UInt64.size - 1) < UInt64.size :=
    Nat.lt_of_le_of_lt (Nat.min_le_right _ _) (by decide)
  rw [saturatingAdd, UInt64.toNat_ofNat_of_lt' hfits]

namespace Aggregate

/-! ## Calls and events -/

/-- A call on an aggregate. -/
inductive Call where
  | append (frame : Bytes) (receivedMicros : UInt64)
  | addBlocked (micros : UInt64)
  | take (sequence : UInt32) (sentMicros : UInt64)
deriving DecidableEq, Repr

/-- What came of a call. -/
inductive Event where
  | appended (frame : Bytes) (receivedMicros : UInt64)
  | refused (error : WireError)
  | waited (micros : UInt64)
  /-- There was no frame to send. -/
  | idle
  | taken (datagram : Bytes)
deriving DecidableEq, Repr

/-- What comes of a call, and the aggregate after it. -/
def perform (a : Aggregate) : Call → Event × Aggregate
  | .append frame micros =>
    match a.append frame micros with
    | .ok b => (.appended frame micros, b)
    | .error e => (.refused e, a)
  | .addBlocked micros => (.waited micros, a.addBlocked micros)
  | .take sequence sentMicros =>
    match a.take? sequence sentMicros with
    | some (datagram, b) => (.taken datagram, b)
    | none => (.idle, a)

/-- What comes of some calls, and the aggregate after them. -/
def performAll (a : Aggregate) : List Call → List Event × Aggregate
  | [] => ([], a)
  | call :: rest =>
    let r := (a.perform call).2.performAll rest
    ((a.perform call).1 :: r.1, r.2)

/-! ## What happened since the last batch -/

/-- Whether a batch was handed out. -/
def Event.isTaken : Event → Bool
  | taken _ => true
  | _ => false

/-- The frame that went in, with the time of its receipt. -/
def Event.added? : Event → Option (Bytes × UInt64)
  | appended frame micros => some (frame, micros)
  | _ => none

/-- The time that was waited. -/
def Event.waited? : Event → Option UInt64
  | waited micros => some micros
  | _ => none

/-- The events behind the last batch that was handed out. -/
def sinceTaken (events : List Event) : List Event :=
  (events.reverse.takeWhile fun e => !e.isTaken).reverse

/-- The frames that were added since the last batch, with the times of their receipt. -/
def added (events : List Event) : List (Bytes × UInt64) :=
  (sinceTaken events).filterMap Event.added?

/-- All the time that was waited since the last batch. -/
def waitedMicros (events : List Event) : Nat :=
  ((sinceTaken events).filterMap Event.waited?).foldl (fun total micros => total + micros.toNat) 0

/-- A batch ends the past, and every other event adds to it. -/
theorem sinceTaken_concat (events : List Event) (e : Event) :
    sinceTaken (events ++ [e]) = if e.isTaken then [] else sinceTaken events ++ [e] := by
  unfold sinceTaken
  rw [List.reverse_concat, List.takeWhile_cons]
  cases e.isTaken <;> simp

variable {events : List Event} {e : Event}

theorem added_concat (h : e.isTaken = false) :
    added (events ++ [e]) = added events ++ e.added?.toList := by
  rw [added, sinceTaken_concat, h, if_neg Bool.false_ne_true, List.filterMap_append]
  cases hadded : e.added? <;> simp [added, hadded]

theorem waitedMicros_concat (h : e.isTaken = false) :
    waitedMicros (events ++ [e]) = waitedMicros events + (e.waited?.map UInt64.toNat).getD 0 := by
  rw [waitedMicros, sinceTaken_concat, h, if_neg Bool.false_ne_true, List.filterMap_append,
    List.foldl_append]
  cases hwaited : e.waited? <;> simp [waitedMicros, hwaited]

/-! ## The aggregate follows its history -/

variable {a b : Aggregate} {limit : Nat}

/-- The aggregate is what its history makes of one with this limit. -/
structure Follows (limit : Nat) (events : List Event) (a : Aggregate) : Prop where
  sized : a.Sized
  /-- The limit is the one that was asked for, if the header can tell it. -/
  limit_eq : a.limit = min limit maxLimit
  frames_eq : a.frames = (added events).map Prod.fst
  /-- The first of them tells the time of receipt. -/
  received_eq : ∀ first ∈ (added events).head?, a.receivedMicros = first.2
  /-- The time that was waited is known, if a word can tell it. -/
  blocked_eq : a.blockedMicros.toNat = min (waitedMicros events) (UInt64.size - 1)

theorem follows_empty (limit : Nat) : Follows limit [] (empty limit) where
  sized := sized_empty limit
  limit_eq := rfl
  frames_eq := rfl
  received_eq _ h := nomatch h
  blocked_eq := rfl

/-- Nothing is left of the history when a batch is handed out. -/
theorem follows_taken (events : List Event) (datagram : Bytes) :
    Follows limit (events ++ [.taken datagram]) (empty limit) := by
  have hsince : sinceTaken (events ++ [.taken datagram]) = [] := sinceTaken_concat events _
  have hadded : added (events ++ [.taken datagram]) = [] := by rw [added, hsince]; rfl
  have hwaited : waitedMicros (events ++ [.taken datagram]) = 0 := by rw [waitedMicros, hsince]; rfl
  refine ⟨sized_empty limit, rfl, ?_, ?_, ?_⟩
  · rw [hadded]
    rfl
  · rw [hadded]
    exact fun _ h => nomatch h
  · rw [hwaited]
    rfl

/-- An event that adds no frame and no time leaves the aggregate as its history has it. -/
theorem Follows.unchanged (h : Follows limit events a) (htaken : e.isTaken = false)
    (hadded : e.added? = none) (hwaited : e.waited? = none) : Follows limit (events ++ [e]) a := by
  have hadds : added (events ++ [e]) = added events := by
    rw [added_concat htaken, hadded, Option.toList_none, List.append_nil]
  have hwaits : waitedMicros (events ++ [e]) = waitedMicros events := by
    rw [waitedMicros_concat htaken, hwaited]
    rfl
  exact ⟨h.sized, h.limit_eq, hadds ▸ h.frames_eq, hadds ▸ h.received_eq, hwaits ▸ h.blocked_eq⟩

/-- No frame waits exactly if none was added since the last batch. -/
theorem Follows.isEmpty_iff (h : Follows limit events a) :
    a.isEmpty = true ↔ added events = [] := by
  rw [Aggregate.isEmpty_iff, h.frames_eq, List.map_eq_nil_iff]

/-- A frame that went in waits behind those that were added before it. -/
theorem Follows.append (h : Follows limit events a) {frame : Bytes} {micros : UInt64}
    (happend : a.append frame micros = .ok b) :
    Follows limit (events ++ [.appended frame micros]) b := by
  have hadds : added (events ++ [.appended frame micros]) = added events ++ [(frame, micros)] :=
    added_concat rfl
  have hwaits : waitedMicros (events ++ [.appended frame micros]) = waitedMicros events :=
    waitedMicros_concat rfl
  have hsized := h.sized.append happend
  -- From here on the aggregate afterwards is known field by field.
  obtain rfl := eq_of_append happend
  refine ⟨hsized, h.limit_eq, ?_, ?_, hwaits ▸ h.blocked_eq⟩
  · show a.frames ++ [frame] = (added (events ++ [.appended frame micros])).map Prod.fst
    rw [hadds, h.frames_eq, List.map_append]
    rfl
  · -- The time is that of this frame if it is the first since the last batch.
    intro first hfirst
    rw [hadds] at hfirst
    show (if a.isEmpty then micros else a.receivedMicros) = first.2
    split
    · rename_i hempty
      rw [h.isEmpty_iff.1 hempty] at hfirst
      cases hfirst
      rfl
    · rename_i hnonempty
      obtain ⟨earliest, rest, hbefore⟩ :=
        List.exists_cons_of_ne_nil (mt h.isEmpty_iff.2 hnonempty)
      rw [hbefore] at hfirst
      exact h.received_eq first (hbefore ▸ hfirst)

/-- The time waited is added to what was waited before. -/
theorem Follows.addBlocked (h : Follows limit events a) (micros : UInt64) :
    Follows limit (events ++ [.waited micros]) (a.addBlocked micros) := by
  have hadds : added (events ++ [.waited micros]) = added events := by
    rw [added_concat rfl]
    exact List.append_nil _
  have hwaits : waitedMicros (events ++ [.waited micros]) = waitedMicros events + micros.toNat :=
    waitedMicros_concat rfl
  refine ⟨h.sized.addBlocked micros, h.limit_eq, hadds ▸ h.frames_eq, hadds ▸ h.received_eq, ?_⟩
  -- To saturate at every sample is to saturate once, at the sum of all.
  show (saturatingAdd a.blockedMicros micros).toNat = _
  rw [toNat_saturatingAdd, h.blocked_eq, hwaits]
  omega

theorem Follows.take?_of_eq_nil (h : Follows limit events a) (hadded : added events = [])
    (sequence : UInt32) (sentMicros : UInt64) : a.take? sequence sentMicros = none :=
  if_pos (h.isEmpty_iff.2 hadded)

/-- Emptying leaves an aggregate like a new one. -/
theorem Follows.take?_of_ne_nil (h : Follows limit events a) (hadded : added events ≠ [])
    (sequence : UInt32) (sentMicros : UInt64) :
    a.take? sequence sentMicros =
      some ((a.header sequence sentMicros).encode ++ a.payload, empty limit) := by
  -- The limit was cut to what the header can tell when the aggregate was made.
  have hempty : ({ limit := a.limit } : Aggregate) = empty limit := by rw [h.limit_eq]; rfl
  rw [← hempty]
  exact if_neg (mt h.isEmpty_iff.1 hadded)

/-- One call: whatever comes of it, the aggregate goes on following its history. -/
theorem Follows.perform (h : Follows limit events a) (call : Call) :
    Follows limit (events ++ [(a.perform call).1]) (a.perform call).2 := by
  cases call with
  | append frame micros =>
    cases happend : a.append frame micros with
    | ok b =>
      simp only [Aggregate.perform, happend]
      exact h.append happend
    | error e =>
      -- The frame is refused, and the aggregate is the one before.
      simp only [Aggregate.perform, happend]
      exact h.unchanged rfl rfl rfl
  | addBlocked micros => exact h.addBlocked micros
  | take sequence sentMicros =>
    by_cases hadded : added events = []
    · simp only [Aggregate.perform, h.take?_of_eq_nil hadded]
      exact h.unchanged rfl rfl rfl
    · simp only [Aggregate.perform, h.take?_of_ne_nil hadded]
      exact follows_taken events _

theorem Follows.performAll (h : Follows limit events a) (calls : List Call) :
    Follows limit (events ++ (a.performAll calls).1) (a.performAll calls).2 := by
  induction calls generalizing a events with
  | nil => simpa only [Aggregate.performAll, List.append_nil] using h
  | cons call rest ih =>
    -- The event of this call is part of the history for the calls behind it.
    have hrest := ih (h.perform call)
    rwa [List.append_assoc] at hrest

/-! ## What calls come to -/

/-- A frame is added if it fits behind the others, and refused without a trace if it does not. -/
theorem Sized.perform_append (h : a.Sized) (frame : Bytes) (micros : UInt64) :
    if a.payload.length + frame.length ≤ a.limit then
      (a.perform (.append frame micros)).1 = .appended frame micros
    else
      a.perform (.append frame micros) =
        (.refused (if a.limit < frame.length then .frameTooLarge frame.length a.limit
          else .aggregateOverflow frame.length (a.limit - a.payload.length)), a) := by
  rw [← h.size_eq]
  split
  · rename_i hfits
    simp only [perform, append_of_fits hfits]
  · rename_i hfull
    split
    -- Too long for any batch is told before too long for what is left of this one.
    · rename_i hlong
      simp only [perform, Aggregate.append, if_pos hlong]
    · rename_i hshort
      simp only [perform, h.append_of_full (Nat.le_of_not_lt hshort) (Nat.lt_of_not_le hfull)]
      rfl

/-- The field of the header saturates once more, as it is narrower than the word before. -/
theorem toNat_blockedMicros_header (a : Aggregate) (sequence : UInt32) (sentMicros : UInt64) :
    (a.header sequence sentMicros).blockedMicros.toNat =
      min (UInt32.size - 1) a.blockedMicros.toNat := by
  have hfits : min a.blockedMicros.toNat (UInt32.size - 1) < UInt32.size :=
    Nat.lt_of_le_of_lt (Nat.min_le_right _ _) (by decide)
  show (UInt32.ofNat (min a.blockedMicros.toNat (UInt32.size - 1))).toNat = _
  rw [UInt32.toNat_ofNat_of_lt' hfits, Nat.min_comm]

/-- **A batch carries what its history put into it.** Whatever was added, waited and taken before:
the bytes stay within the limit and within what the header can tell. A frame is added if it fits and
refused without a trace otherwise. There is a batch exactly if a frame was added since the batch
before; if there is none, nothing changes. The batch is read back to these frames and no others, in
their order, with the time of the first of them, the numbers that were given and all the time waited
since the batch before, as far as the field can tell it. -/
theorem batches_follow_history (limit : Nat) (calls : List Call) :
    let events := ((empty limit).performAll calls).1
    let a := ((empty limit).performAll calls).2
    let room := min limit 65535
    (a.payload.length ≤ room ∧ a.remaining + a.payload.length = room ∧
      ∀ sequence sentMicros,
        (a.header sequence sentMicros).payloadLength.toNat = a.payload.length) ∧
    (∀ frame micros,
      if a.payload.length + frame.length ≤ room then
        (a.perform (.append frame micros)).1 = .appended frame micros
      else
        a.perform (.append frame micros) =
          (.refused (if room < frame.length then .frameTooLarge frame.length room
            else .aggregateOverflow frame.length (room - a.payload.length)), a)) ∧
    (∀ sequence sentMicros,
      (a.take? sequence sentMicros = none ↔ added events = []) ∧
      (added events = [] → a.perform (.take sequence sentMicros) = (.idle, a))) ∧
    ∀ sequence sentMicros first rest, added events = first :: rest →
      ∃ datagram header,
        a.perform (.take sequence sentMicros) = (.taken datagram, empty limit) ∧
        decode datagram = .ok (header, ((added events).map Prod.fst).flatten) ∧
        header.sequence = sequence ∧ header.sentMicros = sentMicros ∧
        header.receivedMicros = first.2 ∧
        header.blockedMicros.toNat =
          min (UInt32.size - 1) (min (waitedMicros events) (UInt64.size - 1)) := by
  intro events a room
  have h : Follows limit events a := (follows_empty limit).performAll calls
  have hroom : a.limit = room := h.limit_eq
  have hsize : a.payload.length ≤ room := h.sized.size_eq ▸ hroom ▸ h.sized.size_le
  refine ⟨⟨hsize, ?_, h.sized.payloadLength_header⟩, ?_, ?_, ?_⟩
  · rw [remaining, hroom, h.sized.size_eq]
    omega
  · intro frame micros
    rw [← hroom]
    exact h.sized.perform_append frame micros
  · intro sequence sentMicros
    refine ⟨⟨fun hnone => ?_, fun hadded => h.take?_of_eq_nil hadded sequence sentMicros⟩, ?_⟩
    -- If a frame was added, then there is a batch.
    · refine Classical.byContradiction fun hadded => ?_
      rw [h.take?_of_ne_nil hadded] at hnone
      cases hnone
    · intro hadded
      simp only [perform, h.take?_of_eq_nil hadded]
  · intro sequence sentMicros first rest hadded
    -- The batch is the one that `take?_of_ne_nil` puts together; what it carries is known from the
    -- history.
    have hne : added events ≠ [] := by
      rw [hadded]
      exact List.cons_ne_nil _ _
    refine ⟨(a.header sequence sentMicros).encode ++ a.payload, a.header sequence sentMicros,
      ?_, ?_, rfl, rfl, ?_, ?_⟩
    · simp only [perform, h.take?_of_ne_nil hne]
    · rw [h.sized.decode_take, ← h.frames_eq]
      rfl
    · exact h.received_eq first (by rw [hadded]; rfl)
    · rw [toNat_blockedMicros_header, h.blocked_eq]

/-- The time waited before an emptying that finds no frame goes into the next batch. A frame without
bytes is a frame, and one that fits exactly leaves no room. -/
example :
    ((empty 3).performAll [.addBlocked 5, .take 0 6, .append [] 7, .append [1, 2, 3] 8,
      .append [4] 9, .addBlocked 2, .take 1 10]).1 =
      [.waited 5, .idle, .appended [] 7, .appended [1, 2, 3] 8,
        .refused (.aggregateOverflow 1 0), .waited 2,
        .taken [1, 0, 0, 0, 3, 0, 7, 0, 0, 0, 0, 0, 0, 0, 10, 0, 0, 0, 0, 0, 0, 0, 7, 0, 0, 0,
          1, 2, 3]] := by
  decide

end Aggregate

end VehicleLink
