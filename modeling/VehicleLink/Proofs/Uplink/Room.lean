import VehicleLink.Config.Validation
import VehicleLink.Proofs.Frame.Whole
import VehicleLink.Proofs.Serial.Backpressure
import VehicleLink.Proofs.Uplink.Admission

/-!
# Nothing is written that the line has no room for

Whatever the uplink worker tries to write, the line showed room for it right before (`RoomShown`).
If the worker gives up because there is no room, then the last answer of the line showed too little
for the datagram that waited. A usable output buffer holds every frame, so the line was not empty
then (`writes_into_shown_room`).

Both hold of one datagram because of how waiting ends (`Backpressure.waitFrom_cases`), and of a run
because its parts follow one another on the line.
-/

namespace VehicleLink

/-- What the relay tried to write, whether it could or not. -/
def SerialEvent.attempted? : SerialEvent → Option Bytes
  | wrote bytes => some bytes
  | failedToWrite bytes => some bytes
  | queried _ => none

/-- Right before each attempt to write, the line told how much waits, and what is written fits
behind it. -/
def RoomShown (capacity : Nat) (serial : List SerialEvent) : Prop :=
  ∀ before event after datagram, serial = before ++ event :: after →
    event.attempted? = some datagram →
      ∃ earlier queued, before = earlier ++ [.queried (.bytes queued)] ∧
        queued + datagram.length ≤ capacity

namespace RoomShown

variable {capacity : Nat} {serial : List SerialEvent}

theorem queries (capacity : Nat) (readings : List QueueReading) :
    RoomShown capacity (readings.map .queried) := by
  intro before event after datagram hsplit hattempt
  have hmem : event ∈ readings.map SerialEvent.queried := by
    rw [hsplit]
    exact List.mem_append_right before List.mem_cons_self
  obtain ⟨reading, -, rfl⟩ := List.mem_map.1 hmem
  cases hattempt

/-- Parts that show room before they write do so one after the other. -/
protected theorem append {later : List SerialEvent} (h : RoomShown capacity serial)
    (hlater : RoomShown capacity later) : RoomShown capacity (serial ++ later) := by
  intro before event after datagram hsplit hattempt
  -- The attempt is in the later part, or else in the first one.
  rcases List.append_eq_append_iff.1 hsplit with ⟨front, hbefore, hback⟩ | ⟨back, hfront, hafter⟩
  · obtain ⟨earlier, queued, hearlier, hroom⟩ := hlater front event after datagram hback hattempt
    refine ⟨serial ++ earlier, queued, ?_, hroom⟩
    rw [hbefore, hearlier, List.append_assoc]
  · cases back with
    | nil =>
      -- The event would be the first of the later ones, with nothing before it.
      obtain ⟨earlier, queued, hearlier, -⟩ := hlater [] event after datagram hafter.symm hattempt
      exact absurd hearlier.symm (List.append_ne_nil_of_right_ne_nil _ (List.cons_ne_nil _ _))
    | cons first back =>
      obtain ⟨rfl, -⟩ := List.cons_eq_cons.1 hafter
      exact h before _ back datagram hfront hattempt

/-- An attempt to write what the last answer showed room for. -/
theorem attempt {earlier : List SerialEvent} {queued : Nat} {event : SerialEvent} {datagram : Bytes}
    (h : RoomShown capacity (earlier ++ [.queried (.bytes queued)]))
    (hevent : event.attempted? = some datagram) (hroom : queued + datagram.length ≤ capacity) :
    RoomShown capacity (earlier ++ [.queried (.bytes queued)] ++ [event]) := by
  intro before event' after datagram' hsplit hattempt
  -- The attempt is the last event, or it was there before.
  rcases List.eq_nil_or_concat after with rfl | ⟨front, last, rfl⟩
  · obtain ⟨rfl, hlast⟩ := List.append_inj' hsplit rfl
    obtain ⟨rfl, -⟩ := List.cons_eq_cons.1 hlast
    rw [hevent, Option.some.injEq] at hattempt
    exact ⟨earlier, queued, rfl, hattempt ▸ hroom⟩
  · rw [List.concat_eq_append, ← List.cons_append, ← List.append_assoc] at hsplit
    exact h before event' front datagram' (List.append_inj' hsplit rfl).1 hattempt

end RoomShown

namespace Uplink

/-! ## One datagram -/

/-- The worker gave up: the last answer of the line showed too little room, and the time was up. -/
structure GivenUp (b : Backpressure) (serial : List SerialEvent)
    (waited queued needed : Nat) : Prop where
  asked_last : ∃ earlier, serial = earlier ++ [.queried (.bytes queued)]
  full : b.capacity < queued + needed
  late : b.timeout ≤ waited

variable {w : Uplink} {datagram : Bytes} {sender : SocketAddress} {now : Nat} {reply : LineReply}
  {waited queued needed : Nat}

/-- What is passed on is written only after the line showed room for it. -/
theorem roomShown_forward (w : Uplink) (hdatagram : 0 < datagram.length) (reply : LineReply) :
    RoomShown w.backpressure.capacity (w.forward datagram reply).serial := by
  unfold forward
  rcases w.backpressure.waitFrom_cases datagram.length false reply.polls with
    ⟨-, heq⟩ | ⟨earlier, poll, later, outcome, -, -, hends, heq⟩
  · rw [Backpressure.wait, heq]
    exact RoomShown.queries _ _
  · rw [Backpressure.wait, heq]
    have hqueries := RoomShown.queries w.backpressure.capacity
      ((earlier ++ [poll]).map QueuePoll.reading)
    cases hends with
    | failed | late => exact hqueries
    | room queued elapsed hroom =>
      -- The datagram is not empty, so that room for it means that the queue is within the capacity.
      have hfits : queued + datagram.length ≤ w.backpressure.capacity := by omega
      simp only [List.map_append, List.map_cons, List.map_nil] at hqueries ⊢
      -- Also a write that fails was tried.
      cases reply.writeFailure with
      | some reason => exact hqueries.attempt rfl hfits
      | none => exact hqueries.attempt rfl hfits

/-- A datagram that is given up waited for too little room until the time was up. -/
theorem givenUp_forward
    (h : (w.forward datagram reply).outcome = .failed (.stalled waited queued needed)) :
    datagram.length = needed ∧
      GivenUp w.backpressure (w.forward datagram reply).serial waited queued needed := by
  unfold forward at h ⊢
  rcases w.backpressure.waitFrom_cases datagram.length false reply.polls with
    ⟨-, heq⟩ | ⟨earlier, poll, later, outcome, -, -, hends, heq⟩
  · rw [Backpressure.wait, heq] at h
    cases h
  · rw [Backpressure.wait, heq] at h ⊢
    cases hends with
    | failed => cases h
    | late queued elapsed hfull htime =>
      cases h
      refine ⟨rfl, ⟨(earlier.map QueuePoll.reading).map .queried, ?_⟩, by omega, htime⟩
      simp only [List.map_append, List.map_cons, List.map_nil]
    | room =>
      -- Whether the write fails or not, the worker does not give up waiting.
      cases hfailure : reply.writeFailure with
      | some reason =>
        rw [hfailure] at h
        cases h
      | none =>
        rw [hfailure] at h
        cases h

/-- Treating a datagram writes only into room that was shown. -/
theorem roomShown_handle (w : Uplink) (datagram : Bytes) (sender : SocketAddress) (now : Nat)
    (reply : LineReply) :
    RoomShown w.backpressure.capacity (w.handle datagram sender now reply).serial := by
  rcases w.handle_cases datagram sender now reply with
    ⟨e, -, heq⟩ | ⟨header, -, heq⟩ | ⟨header, hinspect, heq⟩
  · rw [heq]
    exact RoomShown.queries _ []
  · rw [heq]
    exact RoomShown.queries _ []
  · rw [heq]
    have hlength := (Frame.inspect_eq_ok_iff.1 hinspect).2
    -- What is passed on is a frame, so it is not empty.
    exact (w.learn sender header now).roomShown_forward (hlength ▸ header.frameLength_pos) reply

/-- What the worker gives up is a frame, hence no longer than frames are. -/
theorem givenUp_handle
    (h : (w.handle datagram sender now reply).outcome = .failed (.stalled waited queued needed)) :
    datagram.length = needed ∧ needed ≤ Frame.maxLength ∧
      GivenUp w.backpressure (w.handle datagram sender now reply).serial waited queued needed := by
  obtain ⟨header, hinspect, heq⟩ := handle_of_failed h
  rw [heq] at h ⊢
  obtain ⟨rfl, hgiven⟩ := (w.learn sender header now).givenUp_forward h
  refine ⟨rfl, ?_, hgiven⟩
  rw [(Frame.inspect_eq_ok_iff.1 hinspect).2]
  exact header.frameLength_le

/-! ## Runs -/

theorem Outcome.eq_failed_of_ending? {outcome : Outcome} {error : RelayError}
    (h : outcome.ending? = some (.failed error)) : outcome = .failed error := by
  cases outcome with
  | failed error' => exact congrArg Outcome.failed (Ending.failed.inj (Option.some.inj h))
  | waiting => cases h
  | forwarded | malformed | armBlocked => cases h

theorem roomShown_perform (w : Uplink) (a : Action) :
    RoomShown w.backpressure.capacity (w.perform a).serial := by
  cases a with
  | readGate | purge | purgeIfDue => exact RoomShown.queries _ []
  | treat datagram sender now reply => exact w.roomShown_handle datagram sender now reply

/-- A run writes only into room that was shown. -/
theorem roomShown_follow (w : Uplink) (actions : List Action) :
    RoomShown w.backpressure.capacity (w.follow perform actions).serial := by
  induction actions generalizing w with
  | nil => exact RoomShown.queries _ []
  | cons a rest ih =>
    by_cases ha : (w.perform a).ending = .stopped
    · rw [follow_cons, Ran.andThen_of_stopped ha]
      have hrest := ih (w.perform a).worker
      rw [backpressure_perform] at hrest
      exact (w.roomShown_perform a).append hrest
    · rw [follow_cons, Ran.andThen_of_ended ha]
      exact w.roomShown_perform a

/-- A run that gives up does so at the last datagram that it treats. -/
theorem givenUp_follow {actions : List Action}
    (h : (w.follow perform actions).ending = .failed (.stalled waited queued needed)) :
    (∃ datagram sender now reply, .treat datagram sender now reply ∈ actions ∧
      datagram.length = needed) ∧
    needed ≤ Frame.maxLength ∧
    GivenUp w.backpressure (w.follow perform actions).serial waited queued needed := by
  obtain ⟨done, rest, hcompleted, -, -⟩ := w.follow_writes actions
  rcases hcompleted.next with rfl | ⟨datagram, sender, now, reply, later, rfl, hlast⟩
  · -- Nothing made the worker stop.
    rw [hcompleted.split, List.append_nil, hcompleted.stopped] at h
    cases h
  · rw [h] at hlast
    obtain ⟨hlength, hmax, hgiven⟩ := givenUp_handle (Outcome.eq_failed_of_ending? hlast)
    rw [backpressure_follow] at hgiven
    obtain ⟨earlier, hasked⟩ := hgiven.asked_last
    have hmem : .treat datagram sender now reply ∈ actions := by
      rw [hcompleted.split]
      exact List.mem_append_right done List.mem_cons_self
    refine ⟨⟨datagram, sender, now, reply, hmem, hlength⟩, hmax, ⟨?_, hgiven.full, hgiven.late⟩⟩
    -- The queries of this datagram come after all that was done before.
    have hended : ((w.follow perform done).worker.perform
        (.treat datagram sender now reply)).ending ≠ .stopped := by
      simp [perform, hlast]
    have hserial : (w.follow perform actions).serial = (w.follow perform done).serial ++
        ((w.follow perform done).worker.handle datagram sender now reply).serial := by
      rw [hcompleted.split, follow_append, Ran.andThen_of_stopped hcompleted.stopped, follow_cons,
        Ran.andThen_of_ended hended]
      rfl
    rw [hserial, hasked, ← List.append_assoc]
    exact ⟨_, rfl⟩

/-- The worker waits by the settings that it is started with. -/
theorem backpressure_of_start {c : Config} {state : State} (h : start c state now = .ok w) :
    w.backpressure = { capacity := c.serialTxBuffer.toNat, timeout := c.serialStallTimeout } := by
  unfold start at h
  split at h
  · cases h
  · rw [← Except.ok.inj h]

/-- **The worker writes into room that the line showed, and gives up only for want of room.**
Whatever the capacity, the bytes needed and the line's answers: waiting goes on as long as the line
answers, shows too little room and the time is not up, and the first look at which it is otherwise
ends it. So in every run with an output buffer that holds a frame, each attempt to write comes right
after an answer that showed room for what is written. If the run gives up a datagram, the last
answer showed too little room for it, and the line was not empty. A usable configuration has such a
buffer. -/
theorem writes_into_shown_room :
    (∀ (b : Backpressure) (needed : Nat) (polls : List QueuePoll),
      ((∀ poll ∈ polls, b.GoesOn needed poll) ∧
        b.wait needed polls = (.pending, polls.map QueuePoll.reading)) ∨
      ∃ earlier poll later outcome, polls = earlier ++ poll :: later ∧
        (∀ before ∈ earlier, b.GoesOn needed before) ∧
        b.Ends needed (!earlier.isEmpty) poll outcome ∧
        b.wait needed polls = (outcome, (earlier ++ [poll]).map QueuePoll.reading)) ∧
    (∀ (c : Config) (state : State) (now : Nat) (w : Uplink), start c state now = .ok w →
      Frame.maxLength ≤ c.serialTxBuffer.toNat → ∀ iterations : List Iteration,
      let capacity := c.serialTxBuffer.toNat
      let r := w.run iterations
      RoomShown capacity r.serial ∧
      ∀ waited queued needed, r.ending = .failed (.stalled waited queued needed) →
        (∃ datagram sender time reply,
          .treat datagram sender time reply ∈ iterations.flatMap Iteration.actions ∧
            datagram.length = needed) ∧
        (∃ earlier, r.serial = earlier ++ [.queried (.bytes queued)]) ∧
        capacity < queued + needed ∧ queued ≠ 0 ∧ c.serialStallTimeout ≤ waited) ∧
    ∀ c : Config, c.validate = .ok c → Frame.maxLength ≤ c.serialTxBuffer.toNat := by
  refine ⟨fun b needed polls => b.waitFrom_cases needed false polls, ?_,
    fun c => Config.maxLength_le_serialTxBuffer_of_validate⟩
  intro c state now w hstart hbuffer iterations capacity r
  have hbackpressure := backpressure_of_start hstart
  have hcapacity : w.backpressure.capacity = capacity :=
    congrArg Backpressure.capacity hbackpressure
  have hruns := w.run_uncounted iterations
  have hserial : r.serial = (w.follow perform (iterations.flatMap Iteration.actions)).serial := by
    have huncounted := congrArg Ran.serial hruns
    exact huncounted
  have hending : r.ending = (w.follow perform (iterations.flatMap Iteration.actions)).ending := by
    have huncounted := congrArg Ran.ending hruns
    exact huncounted
  constructor
  · rw [hserial, ← hcapacity]
    exact w.roomShown_follow _
  · intro waited queued needed hstalled
    rw [hending] at hstalled
    obtain ⟨hdatagram, hneeded, hasked, hfull, hlate⟩ := givenUp_follow hstalled
    rw [hcapacity] at hfull
    rw [hbackpressure] at hlate
    refine ⟨hdatagram, hserial ▸ hasked, hfull, ?_, hlate⟩
    -- With nothing in it, the buffer would have had room for any frame.
    rintro rfl
    omega

/-- The first frame waits once for its room. The second one waits until the time is up, with room
for all of it but one byte. -/
def crowdedLine : List Iteration :=
  let frame : Bytes := [0xFE, 0, 0, 1, 1, 0, 0, 0]
  let sender : SocketAddress := .v4 ⟨10, 0, 0, 2⟩ 14550
  [⟨false, .datagram frame sender 1 1 { polls := [⟨.bytes 300, 0⟩, ⟨.bytes 272, 600000⟩] }⟩,
   ⟨false, .datagram frame sender 2 2
      { polls := [⟨.bytes 280, 0⟩, ⟨.bytes 273, 1000000⟩, ⟨.bytes 0, 1500000⟩] }⟩]

/-- The run gives up with room for seven bytes of eight, and what came later is not looked at. -/
theorem one_byte_too_few :
    let c : Config := { serialTxBuffer := 280, serialStallTimeoutMs := 1 }
    ∃ w, start c (.empty c.primaryAddress c.clientTimeout) 0 = .ok w ∧
      Frame.maxLength ≤ c.serialTxBuffer.toNat ∧
      (w.run crowdedLine).ending = .failed (.stalled 1000000 273 8) ∧
      (w.run crowdedLine).writes = [[0xFE, 0, 0, 1, 1, 0, 0, 0]] ∧
      RoomShown 280 (w.run crowdedLine).serial ∧
      (∃ earlier, (w.run crowdedLine).serial = earlier ++ [.queried (.bytes 273)]) ∧
      280 < 273 + 8 := by
  intro c
  obtain ⟨-, hruns, hvalid⟩ := writes_into_shown_room
  have hbuffer := hvalid c rfl
  refine ⟨_, rfl, hbuffer, ?_⟩
  obtain ⟨hroom, hstalled⟩ :=
    hruns c (.empty c.primaryAddress c.clientTimeout) 0 _ rfl hbuffer crowdedLine
  obtain ⟨-, hasked, hfull, -, -⟩ := hstalled 1000000 273 8 (by decide)
  exact ⟨by decide, by decide, hroom, hasked, hfull⟩

end Uplink

end VehicleLink
