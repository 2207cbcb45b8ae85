import VehicleLink.Uplink.Run

/-!
# What treating one datagram does

`Uplink.handle` has three ways to go (`handle_cases`): the datagram is no frame, it is held back by
the gate, or it is passed on once the line has room. Here is one equation for each
(`handle_of_malformed`, `handle_of_blocked`, `handle_of_passed`), what passing on can do
(`forward_outcomes`), and what all ways have in common: at most the datagram itself is written, and
it is counted exactly once (`Handled.Settled`) unless the worker has to stop, in which case nothing
is written and nothing is counted (`Handled.Abandoned`). All that it changes is in what the worker
shares with others (`worker_handle`).
-/

namespace VehicleLink.Uplink

/-- The bytes of the writes to the serial line, in order. -/
def Handled.writes (h : Handled) : List Bytes := h.serial.filterMap SerialEvent.written?

/-! ## Counting -/

/-- Exactly one of the counters that tell datagrams apart is raised, by one. -/
def CountsOnce (events : UplinkCounters) : Prop :=
  [events.datagrams, events.short, events.badMarker, events.badLength, events.armBlocked].Perm
    [1, 0, 0, 0, 0]

@[simp] theorem bytes_add (a b : UplinkCounters) : (a + b).bytes = a.bytes + b.bytes := rfl

theorem countsOnce_malformed (e : WireError) : CountsOnce (malformedCount e) := by
  unfold CountsOnce
  cases e with
  | tooShort | badMarker | badLength | aggregateOverflow | frameTooLarge =>
    simp only [malformedCount]
    decide

theorem countsOnce_armBlocked : CountsOnce { armBlocked := 1 } := by
  unfold CountsOnce
  decide

theorem countsOnce_datagram (bytes serialWaits : Nat) :
    CountsOnce { datagrams := 1, bytes, serialWaits } :=
  List.Perm.refl _

/-! ## The three ways -/

variable {w : Uplink} {datagram : Bytes} {sender : SocketAddress} {now : Nat} {reply : LineReply}

theorem handle_of_malformed {e : WireError} (h : Frame.inspect datagram = .error e) :
    w.handle datagram sender now reply =
      { outcome := .malformed e, worker := w.count (malformedCount e) } := by
  unfold handle
  rw [h]

theorem handle_of_blocked {header : Frame.Header} (h : Frame.inspect datagram = .ok header)
    (hblocks : w.blocks header datagram = true) :
    w.handle datagram sender now reply =
      { outcome := .armBlocked
        worker := (w.learn sender header now).count { armBlocked := 1 }
        notices := w.state.directory.registry.registerNotices sender
          ++ [.armRequestDropped sender header.system header.component] } := by
  unfold handle
  rw [h]
  simp only [hblocks, if_true]

theorem handle_of_passed {header : Frame.Header} (h : Frame.inspect datagram = .ok header)
    (hpasses : w.blocks header datagram = false) :
    w.handle datagram sender now reply =
      { (w.learn sender header now).forward datagram reply with
        notices := w.state.directory.registry.registerNotices sender
          ++ ((w.learn sender header now).forward datagram reply).notices } := by
  unfold handle
  rw [h]
  simp only [hpasses, Bool.false_eq_true, if_false]

/-- The three ways that a datagram can go. -/
theorem handle_cases (w : Uplink) (datagram : Bytes) (sender : SocketAddress) (now : Nat)
    (reply : LineReply) :
    (∃ e, Frame.inspect datagram = .error e ∧ w.handle datagram sender now reply =
      { outcome := .malformed e, worker := w.count (malformedCount e) }) ∨
    (∃ header, Frame.inspect datagram = .ok header ∧ w.handle datagram sender now reply =
      { outcome := .armBlocked
        worker := (w.learn sender header now).count { armBlocked := 1 }
        notices := w.state.directory.registry.registerNotices sender
          ++ [.armRequestDropped sender header.system header.component] }) ∨
    ∃ header, Frame.inspect datagram = .ok header ∧ w.handle datagram sender now reply =
      { (w.learn sender header now).forward datagram reply with
        notices := w.state.directory.registry.registerNotices sender
          ++ ((w.learn sender header now).forward datagram reply).notices } := by
  cases hinspect : Frame.inspect datagram with
  | error e => exact Or.inl ⟨e, rfl, handle_of_malformed hinspect⟩
  | ok header =>
    cases hblocks : w.blocks header datagram with
    | true => exact Or.inr (Or.inl ⟨header, rfl, handle_of_blocked hinspect hblocks⟩)
    | false => exact Or.inr (Or.inr ⟨header, rfl, handle_of_passed hinspect hblocks⟩)

/-- Only passing on can fail. -/
theorem handle_of_failed {error : RelayError}
    (h : (w.handle datagram sender now reply).outcome = .failed error) :
    ∃ header, Frame.inspect datagram = .ok header ∧ w.handle datagram sender now reply =
      { (w.learn sender header now).forward datagram reply with
        notices := w.state.directory.registry.registerNotices sender
          ++ ((w.learn sender header now).forward datagram reply).notices } := by
  rcases w.handle_cases datagram sender now reply with ⟨e, -, heq⟩ | ⟨header, -, heq⟩ | hpassed
  · rw [heq] at h
    cases h
  · rw [heq] at h
    cases h
  · exact hpassed

/-! ## What they have in common -/

/-- The datagram is settled: `writes` was written, and the datagram was counted once. -/
structure Handled.Settled (h : Handled) (w : Uplink) (writes : List Bytes) : Prop where
  ending : h.outcome.ending? = none
  writes_eq : h.writes = writes
  counted : ∃ events, h.worker.state.uplink = w.state.uplink + events ∧ CountsOnce events ∧
    events.bytes = writes.flatten.length

/-- The worker had to give up, and nothing was written or counted. -/
structure Handled.Abandoned (h : Handled) (w : Uplink) : Prop where
  ending : h.outcome.ending? ≠ none
  writes_eq : h.writes = []
  counters_eq : h.worker.state.uplink = w.state.uplink

/-- Passing on first asks whether there is room, and then has three outcomes: the worker stops
without having tried to write, the write fails, or the write succeeds and is counted. -/
theorem forward_outcomes (w : Uplink) (datagram : Bytes) (reply : LineReply) :
    ∃ readings : List QueueReading,
      (∃ outcome, outcome.ending? ≠ none ∧
        w.forward datagram reply =
          { outcome, worker := w, serial := readings.map .queried }) ∨
      (∃ reason, reply.writeFailure = some reason ∧
        w.forward datagram reply =
          { outcome := .failed (.io reason), worker := w
            serial := readings.map .queried ++ [.failedToWrite datagram] }) ∨
      ∃ serialWaits, w.forward datagram reply =
        { outcome := .forwarded, serial := readings.map .queried ++ [.wrote datagram]
          worker := w.count { datagrams := 1, bytes := datagram.length, serialWaits } } := by
  unfold forward
  -- The questions are the same whatever they come to; only what follows them differs.
  obtain ⟨wait, readings⟩ := w.backpressure.wait datagram.length reply.polls
  refine ⟨readings, ?_⟩
  cases wait with
  | pending | failed reason | stalled waited queued =>
    refine Or.inl ⟨_, ?_, rfl⟩
    exact Option.some_ne_none _
  | ready waited =>
    cases hfailure : reply.writeFailure with
    | some reason => exact Or.inr (Or.inl ⟨reason, rfl, rfl⟩)
    | none => exact Or.inr (Or.inr ⟨_, rfl⟩)

/-- Asking how many bytes wait writes none. -/
theorem filterMap_written?_queried (readings : List QueueReading) :
    (readings.map SerialEvent.queried).filterMap SerialEvent.written? = [] := by
  rw [List.filterMap_map]
  exact List.filterMap_eq_nil_iff.2 fun _ _ => rfl

/-- Either the worker has to stop, is as it was before and has written nothing; or the datagram
alone is written, and counted. -/
theorem forward_cases (w : Uplink) (datagram : Bytes) (reply : LineReply) :
    (∃ outcome serial, outcome.ending? ≠ none ∧ serial.filterMap SerialEvent.written? = [] ∧
      w.forward datagram reply = { outcome, worker := w, serial }) ∨
    (∃ serialWaits serial, serial.filterMap SerialEvent.written? = [datagram] ∧
      w.forward datagram reply =
        { outcome := .forwarded, serial
          worker := w.count { datagrams := 1, bytes := datagram.length, serialWaits } }) := by
  -- A write that fails leaves as little behind as none at all, so that two of the three outcomes
  -- are one case.
  obtain ⟨readings, ⟨outcome, hending, heq⟩ | ⟨reason, -, heq⟩ | ⟨serialWaits, heq⟩⟩ :=
    w.forward_outcomes datagram reply
  · exact Or.inl ⟨_, _, hending, filterMap_written?_queried readings, heq⟩
  · refine Or.inl ⟨_, _, ?_, ?_, heq⟩
    · exact Option.some_ne_none _
    · rw [List.filterMap_append, filterMap_written?_queried]
      rfl
  · refine Or.inr ⟨_, _, ?_, heq⟩
    rw [List.filterMap_append, filterMap_written?_queried]
    rfl

/-- Passing on comes after the gate, so that it holds nothing back. -/
theorem forward_ne_armBlocked (w : Uplink) (datagram : Bytes) (reply : LineReply) :
    (w.forward datagram reply).outcome ≠ .armBlocked := by
  intro hblocked
  rcases w.forward_cases datagram reply with
    ⟨outcome, serial, hending, -, heq⟩ | ⟨serialWaits, serial, -, heq⟩
  · rw [heq] at hblocked
    -- Being held back does not make the worker stop.
    exact hending (congrArg Outcome.ending? hblocked)
  · rw [heq] at hblocked
    cases hblocked

/-- Passing on settles the datagram by writing it, or the worker has to stop. -/
theorem forward_settled_or_abandoned (w : Uplink) (datagram : Bytes) (reply : LineReply) :
    (w.forward datagram reply).Settled w [datagram] ∨ (w.forward datagram reply).Abandoned w := by
  rcases w.forward_cases datagram reply with
    ⟨outcome, serial, hending, hwrites, heq⟩ | ⟨serialWaits, serial, hwrites, heq⟩
  · rw [heq]
    exact Or.inr ⟨hending, hwrites, rfl⟩
  · rw [heq]
    refine Or.inl ⟨rfl, hwrites, _, rfl, countsOnce_datagram datagram.length serialWaits, ?_⟩
    -- The bytes that were counted are those of the one write.
    show datagram.length = [datagram].flatten.length
    rw [List.flatten_singleton]

/-- Passing on changes nothing of the worker but its counters. -/
theorem worker_forward (w : Uplink) (datagram : Bytes) (reply : LineReply) :
    ∃ uplink, (w.forward datagram reply).worker = { w with state := { w.state with uplink } } := by
  rcases w.forward_cases datagram reply with
    ⟨outcome, serial, -, -, heq⟩ | ⟨serialWaits, serial, -, heq⟩
  · rw [heq]
    exact ⟨w.state.uplink, rfl⟩
  · rw [heq]
    exact ⟨_, rfl⟩

/-- From a frame its sender is learned, whatever becomes of it, and else only counters change. -/
theorem worker_handle_of_ok {header : Frame.Header} (h : Frame.inspect datagram = .ok header) :
    ∃ uplink, (w.handle datagram sender now reply).worker =
      { w.learn sender header now with
        state := { (w.learn sender header now).state with uplink } } := by
  cases hblocks : w.blocks header datagram with
  | true =>
    rw [handle_of_blocked h hblocks]
    exact ⟨_, rfl⟩
  | false =>
    obtain ⟨uplink, hforward⟩ := (w.learn sender header now).worker_forward datagram reply
    rw [handle_of_passed h hblocks, hforward]
    exact ⟨uplink, rfl⟩

/-- Treating a datagram changes what the worker shares with others, but nothing of its own. -/
theorem worker_handle (w : Uplink) (datagram : Bytes) (sender : SocketAddress) (now : Nat)
    (reply : LineReply) :
    ∃ state, (w.handle datagram sender now reply).worker = { w with state } := by
  cases hinspect : Frame.inspect datagram with
  | error e =>
    rw [handle_of_malformed hinspect]
    exact ⟨_, rfl⟩
  | ok header =>
    obtain ⟨uplink, hworker⟩ := worker_handle_of_ok hinspect
    rw [hworker]
    exact ⟨_, rfl⟩

theorem rcLocked_handle (w : Uplink) (datagram : Bytes) (sender : SocketAddress) (now : Nat)
    (reply : LineReply) : (w.handle datagram sender now reply).worker.rcLocked = w.rcLocked := by
  obtain ⟨_, hworker⟩ := w.worker_handle datagram sender now reply
  rw [hworker]

end VehicleLink.Uplink
