import VehicleLink.Proofs.Counters
import VehicleLink.Proofs.Frame.Whole
import VehicleLink.Proofs.Uplink.Runs

/-!
# What a datagram leaves behind

A datagram can be stopped at four places: it is no frame, it is held back, there is no room for it,
or it cannot be written. What it leaves behind by then is said at once, as the worker afterwards and
what was done to the line (`Handled.Leaves`), so that whatever is not named there did not happen.

A worker does not take in more of a datagram than so many bytes. As no frame is that long, a
datagram that is cut off is malformed with or without the rest (`handle_take`), and a run would do
the same if it took in everything (`uncounted_run_whole`).
-/

namespace VehicleLink

/-! ## Datagrams that are cut off -/

/-- The error after cutting off all but the first `n` bytes: only a length that was found can
differ. -/
def WireError.within (n : Nat) : WireError → WireError
  | .badLength expected actual => .badLength expected (min n actual)
  | e => e

/-- What is no frame has no header, or not the length that its header announces. -/
theorem Frame.inspect_eq_error {datagram : Bytes} {e : WireError}
    (h : inspect datagram = .error e) :
    Header.ofBytes datagram = .error e ∨
      ∃ header, Header.ofBytes datagram = .ok header ∧ datagram.length ≠ header.frameLength ∧
        e = .badLength header.frameLength datagram.length := by
  unfold inspect at h
  cases hread : Header.ofBytes datagram with
  | error e' =>
    rw [hread] at h
    exact Or.inl h
  | ok header =>
    simp only [hread] at h
    split at h
    · cases h
    · rename_i hlength
      exact Or.inr ⟨header, rfl, hlength, (Except.error.inj h).symm⟩

/-- A frame is not longer than the longest one, so that what goes beyond that may be cut off. -/
theorem Frame.inspect_take {n : Nat} (hn : maxLength < n) (datagram : Bytes) :
    inspect (datagram.take n) = (inspect datagram).mapError (WireError.within n) := by
  have hread : Header.ofBytes (datagram.take n) = Header.ofBytes datagram :=
    Header.ofBytes_take_eq (by unfold maxLength at hn; omega) datagram
  cases hinspect : inspect datagram with
  | ok header =>
    obtain ⟨hheader, hlength⟩ := inspect_eq_ok_iff.1 hinspect
    have hle := header.frameLength_le
    -- A frame is short enough to be taken in whole.
    rw [List.take_of_length_le (by omega), hinspect]
    rfl
  | error e =>
    rcases inspect_eq_error hinspect with hheader | ⟨header, hheader, hlength, rfl⟩
    · -- Without a header it is not the length that is wrong.
      have hkept : e.within n = e := by
        rcases Header.ofBytes_eq_error hheader with ⟨_, _, -, -, rfl⟩ | ⟨-, rfl⟩ <;> rfl
      show inspect (datagram.take n) = .error (e.within n)
      simp only [inspect, hread, hheader, hkept]
    · have hle := header.frameLength_le
      -- What is left is too long for the header as well, or it is all there was.
      have hcut : min n datagram.length ≠ header.frameLength := by omega
      show inspect (datagram.take n) =
        .error (.badLength header.frameLength (min n datagram.length))
      simp only [inspect, hread, hheader, List.length_take, hcut, if_false]

namespace Uplink

/-- The outcome after cutting off all but the first `n` bytes. -/
def Outcome.within (n : Nat) : Outcome → Outcome
  | .malformed error => .malformed (error.within n)
  | outcome => outcome

theorem ending?_within (n : Nat) (outcome : Outcome) :
    (outcome.within n).ending? = outcome.ending? := by
  cases outcome <;> rfl

/-- Passing on does not end in a malformed datagram, so cutting off does not change its outcome. -/
theorem within_outcome_forward (n : Nat) (w : Uplink) (datagram : Bytes) (reply : LineReply) :
    (w.forward datagram reply).outcome.within n = (w.forward datagram reply).outcome := by
  obtain ⟨readings, ⟨outcome, hending, heq⟩ | ⟨reason, -, heq⟩ | ⟨serialWaits, heq⟩⟩ :=
    w.forward_outcomes datagram reply
  · rw [heq]
    cases outcome with
    | malformed => exact absurd rfl hending
    | forwarded | armBlocked | failed | waiting => rfl
  · rw [heq]
    rfl
  · rw [heq]
    rfl

/-- What is cut off of a datagram that is longer than any frame makes no difference. -/
theorem handle_take {n : Nat} (hn : Frame.maxLength < n) (w : Uplink) (datagram : Bytes)
    (sender : SocketAddress) (now : Nat) (reply : LineReply) :
    w.handle (datagram.take n) sender now reply =
      { w.handle datagram sender now reply with
        outcome := (w.handle datagram sender now reply).outcome.within n } := by
  have htaken := Frame.inspect_take hn datagram
  cases hinspect : Frame.inspect datagram with
  | error e =>
    rw [hinspect] at htaken
    rw [handle_of_malformed hinspect, handle_of_malformed htaken]
    cases e <;> rfl
  | ok header =>
    have hlength := (Frame.inspect_eq_ok_iff.1 hinspect).2
    have hle := header.frameLength_le
    -- A frame is not cut at all.
    rw [List.take_of_length_le (by omega)]
    cases hblocks : w.blocks header datagram with
    | true =>
      rw [handle_of_blocked hinspect hblocks]
      rfl
    | false =>
      rw [handle_of_passed hinspect hblocks]
      simp only [within_outcome_forward]

/-- What the worker would do in an iteration if it took in the whole of a datagram. -/
def Iteration.actionsWhole (i : Iteration) : List Action :=
  .readGate i.gate :: match i.reception with
  | .interrupted => []
  | .timedOut now => [.purge now]
  | .failed checkedAt => [.purgeIfDue checkedAt]
  | .datagram bytes sender now checkedAt reply =>
    [.treat bytes sender now reply, .purgeIfDue checkedAt]

/-- The worker takes in more than the longest frame, so that it cuts off nothing that matters. -/
theorem perform_treat_take (w : Uplink) (datagram : Bytes) (sender : SocketAddress) (now : Nat)
    (reply : LineReply) :
    w.perform (.treat (datagram.take receiveLength) sender now reply) =
      w.perform (.treat datagram sender now reply) := by
  have hlonger : Frame.maxLength < receiveLength := by decide
  simp only [perform, handle_take hlonger, ending?_within]

theorem follow_actions (w : Uplink) (i : Iteration) :
    w.follow perform i.actions = w.follow perform i.actionsWhole := by
  obtain ⟨gate, reception⟩ := i
  cases reception with
  | interrupted | timedOut | failed => rfl
  | datagram bytes sender now checkedAt reply =>
    simp only [Iteration.actions, Iteration.actionsWhole, follow_cons, perform_treat_take]

/-- A run does what it would do if it took in the whole of every datagram. -/
theorem uncounted_run_whole (w : Uplink) (iterations : List Iteration) :
    (w.run iterations).uncounted =
      (w.follow perform (iterations.flatMap Iteration.actionsWhole)).uncounted := by
  have hsame : w.follow perform (iterations.flatMap Iteration.actions) =
      w.follow perform (iterations.flatMap Iteration.actionsWhole) := by
    induction iterations generalizing w with
    | nil => rfl
    | cons i rest ih =>
      rw [List.flatMap_cons, List.flatMap_cons, follow_append, follow_append, follow_actions]
      exact congrArg (Ran.andThen _) (funext ih)
  rw [run_uncounted, hsame]

/-! ## What is left behind -/

/-- All that treating a datagram left behind: who is known now, what was counted and what was done
to the line. -/
structure Handled.Leaves (h : Handled) (w : Uplink) (directory : Directory)
    (events : UplinkCounters) (serial : List SerialEvent) : Prop where
  worker_eq : h.worker =
    { w with state := { w.state with directory, uplink := w.state.uplink + events } }
  serial_eq : h.serial = serial

section Ways

variable {w : Uplink} {datagram : Bytes} {sender : SocketAddress} {now : Nat} {reply : LineReply}
  {header : Frame.Header}

/-- Of the three counters of malformed datagrams, the one that the error belongs to is raised. -/
theorem malformedCount_of_inspect {e : WireError} (h : Frame.inspect datagram = .error e) :
    (∃ length, e = .tooShort length ∧ malformedCount e = { short := 1 }) ∨
    (∃ marker, e = .badMarker marker ∧ malformedCount e = { badMarker := 1 }) ∨
    ∃ expected actual, e = .badLength expected actual ∧ malformedCount e = { badLength := 1 } := by
  rcases Frame.inspect_eq_error h with hheader | ⟨header, -, -, rfl⟩
  · rcases Frame.Header.ofBytes_eq_error hheader with ⟨first, rest, -, -, rfl⟩ | ⟨-, rfl⟩
    · exact Or.inr (Or.inl ⟨first, rfl, rfl⟩)
    · exact Or.inl ⟨datagram.length, rfl, rfl⟩
  -- There is a header, so that it is the length that is wrong.
  · exact Or.inr (Or.inr ⟨_, _, rfl, rfl⟩)

/-- From a frame its sender is learned, whatever becomes of it. -/
theorem directory_handle (h : Frame.inspect datagram = .ok header) :
    (w.handle datagram sender now reply).worker.state.directory =
      w.state.directory.registerSource sender header.system header.component now := by
  obtain ⟨uplink, hworker⟩ := worker_handle_of_ok h
  rw [hworker]
  rfl

/-- Only the gate holds something back, and it leaves the sender and one count behind. -/
theorem leaves_of_armBlocked (h : (w.handle datagram sender now reply).outcome = .armBlocked) :
    ∃ header, Frame.inspect datagram = .ok header ∧
      (w.handle datagram sender now reply).Leaves w
        (w.state.directory.registerSource sender header.system header.component now)
        { armBlocked := 1 } [] := by
  rcases w.handle_cases datagram sender now reply with
    ⟨e, -, heq⟩ | ⟨header, hinspect, heq⟩ | ⟨header, -, heq⟩
  · rw [heq] at h
    cases h
  · rw [heq]
    exact ⟨header, hinspect, rfl, rfl⟩
  · rw [heq] at h
    exact absurd h (forward_ne_armBlocked _ datagram reply)

/-- Whatever makes the worker stop, it counts nothing. Unless it is the write that failed, the line
was only asked whether it has room. -/
theorem leaves_of_failed {error : RelayError}
    (h : (w.handle datagram sender now reply).outcome = .failed error) :
    ∃ header, ∃ readings : List QueueReading, Frame.inspect datagram = .ok header ∧
      ((w.handle datagram sender now reply).Leaves w
          (w.state.directory.registerSource sender header.system header.component now)
          0 (readings.map .queried) ∨
        ∃ reason, reply.writeFailure = some reason ∧ error = .io reason ∧
          (w.handle datagram sender now reply).Leaves w
            (w.state.directory.registerSource sender header.system header.component now)
            0 (readings.map .queried ++ [.failedToWrite datagram])) := by
  -- Only a frame that was passed on can fail, so that its sender has been learned.
  obtain ⟨header, hinspect, heq⟩ := handle_of_failed h
  rw [heq] at h ⊢
  obtain ⟨readings,
    ⟨outcome, -, hforward⟩ | ⟨reason, hreason, hforward⟩ | ⟨serialWaits, hforward⟩⟩ :=
    (w.learn sender header now).forward_outcomes datagram reply
  · rw [hforward]
    exact ⟨header, readings, hinspect, Or.inl ⟨rfl, rfl⟩⟩
  · rw [hforward] at h ⊢
    exact ⟨header, readings, hinspect,
      Or.inr ⟨reason, hreason, (Outcome.failed.inj h).symm, rfl, rfl⟩⟩
  · -- Nothing failed.
    rw [hforward] at h
    cases h

end Ways

/-- **A datagram that is stopped leaves exactly its traces.** Whatever the worker, the datagram, its
sender and the line's answers: if it is no frame, nothing but one counter changes, the one that its
error belongs to, and the line is not even asked; if it is held back, its sender is learned and only
that is counted, and again the line is not asked; if the worker has to stop, the sender is learned
and nothing is counted, and nothing is written unless it was the write that failed. From every frame
the sender is learned in the same way. Cutting a datagram off where the worker cuts it off changes
nothing in this but the length that a malformed one is said to have, and nothing at all in a run. -/
theorem stopped_datagram_leaves (w : Uplink) (datagram : Bytes) (sender : SocketAddress) (now : Nat)
    (reply : LineReply) :
    let h := w.handle datagram sender now reply
    (∀ e, Frame.inspect datagram = .error e → h.outcome = .malformed e ∧
      ((∃ length, e = .tooShort length ∧ h.Leaves w w.state.directory { short := 1 } []) ∨
        (∃ marker, e = .badMarker marker ∧
          h.Leaves w w.state.directory { badMarker := 1 } []) ∨
        ∃ expected actual, e = .badLength expected actual ∧
          h.Leaves w w.state.directory { badLength := 1 } [])) ∧
    (h.outcome = .armBlocked → ∃ header, Frame.inspect datagram = .ok header ∧
      h.Leaves w (w.state.directory.registerSource sender header.system header.component now)
        { armBlocked := 1 } []) ∧
    (∀ error, h.outcome = .failed error → ∃ header, ∃ readings : List QueueReading,
      Frame.inspect datagram = .ok header ∧
      (h.Leaves w (w.state.directory.registerSource sender header.system header.component now)
          0 (readings.map .queried) ∨
        ∃ reason, reply.writeFailure = some reason ∧ error = .io reason ∧
          h.Leaves w (w.state.directory.registerSource sender header.system header.component now)
            0 (readings.map .queried ++ [.failedToWrite datagram]))) ∧
    (∀ header, Frame.inspect datagram = .ok header → h.worker.state.directory =
      w.state.directory.registerSource sender header.system header.component now) ∧
    w.handle (datagram.take receiveLength) sender now reply =
      { h with outcome := h.outcome.within receiveLength } ∧
    ∀ iterations, (w.run iterations).uncounted =
      (w.follow perform (iterations.flatMap Iteration.actionsWhole)).uncounted := by
  intro h
  refine ⟨?_, leaves_of_armBlocked, fun _ => leaves_of_failed, fun _ => directory_handle,
    handle_take (by decide) w datagram sender now reply, w.uncounted_run_whole⟩
  intro e hinspect
  have hh : h = { outcome := .malformed e, worker := w.count (malformedCount e) } :=
    handle_of_malformed hinspect
  -- What is left behind is the same for all errors; which counter it is goes by the error.
  have hleaves : h.Leaves w w.state.directory (malformedCount e) [] := hh ▸ ⟨rfl, rfl⟩
  refine ⟨hh ▸ rfl, ?_⟩
  rcases malformedCount_of_inspect hinspect with
    ⟨length, he, hcount⟩ | ⟨marker, he, hcount⟩ | ⟨expected, actual, he, hcount⟩
  · exact Or.inl ⟨length, he, hcount ▸ hleaves⟩
  · exact Or.inr (Or.inl ⟨marker, he, hcount ▸ hleaves⟩)
  · exact Or.inr (Or.inr ⟨expected, actual, he, hcount ▸ hleaves⟩)

end Uplink

end VehicleLink
