import VehicleLink.Proofs.Serial.Backpressure
import VehicleLink.Proofs.Uplink.ArmGate
import VehicleLink.Proofs.Uplink.Runs

/-!
# The serial output is the admitted traffic

Which datagrams have to reach the vehicle can be told from what came in alone: those that are one
whole frame and do not ask to arm while the gate, as last read, is locked (`admitted`). What the
line makes of such a datagram can be told from its answers alone (`LineDecides`): it takes it, or
the worker has to stop. The main statement, `writes_eq_admitted`, is that the worker writes exactly
the admitted datagrams, unchanged and in order, up to the first one that the line does not take, and
counts each datagram once.

The induction is over what the worker does. The gate as last read is the only state that the
admitted traffic depends on (`rcLocked_perform`), and how the worker waits for room never changes
(`backpressure_perform`).
-/

namespace VehicleLink.Uplink

/-- Whether a datagram has to reach the vehicle, given whether the gate is locked. -/
def isAdmitted (locked : Bool) (datagram : Bytes) : Bool :=
  match Frame.inspect datagram with
  | .ok header => !(locked && Message.isArmRequest header.messageId (header.payload datagram))
  | .error _ => false

/-- The datagrams that have to reach the vehicle, in order. The gate is locked or not at first, and
then as it was last read. -/
def admitted (locked : Bool) : List Action → List Bytes
  | [] => []
  | .readGate locked :: rest => admitted locked rest
  | .treat datagram _ _ _ :: rest =>
    if isAdmitted locked datagram then datagram :: admitted locked rest else admitted locked rest
  | .purge _ :: rest => admitted locked rest
  | .purgeIfDue _ :: rest => admitted locked rest

/-- What the line makes of a datagram that has to be written. The first look that does not make the
worker wait on decides, and if it showed room, the attempt to write. -/
inductive LineDecides (b : Backpressure) (datagram : Bytes) (reply : LineReply) :
    Outcome → Prop where
  | taken (waited : Bool) (hroom : b.EndsIn datagram.length reply.polls (.ready waited))
      (hwrite : reply.writeFailure = none) : LineDecides b datagram reply .forwarded
  | unwritten (waited : Bool) (reason : String)
      (hroom : b.EndsIn datagram.length reply.polls (.ready waited))
      (hwrite : reply.writeFailure = some reason) :
      LineDecides b datagram reply (.failed (.io reason))
  | unanswered (reason : String)
      (hquery : b.EndsIn datagram.length reply.polls (.failed reason)) :
      LineDecides b datagram reply (.failed (.io reason))
  | full (waited queued : Nat)
      (hfull : b.EndsIn datagram.length reply.polls (.stalled waited queued)) :
      LineDecides b datagram reply (.failed (.stalled waited queued datagram.length))
  /-- No look has decided yet. -/
  | undecided (hgoes : ∀ poll ∈ reply.polls, b.GoesOn datagram.length poll) :
      LineDecides b datagram reply .waiting

/-! ## One datagram -/

/-- What becomes of a datagram that is passed on is what the line makes of it. -/
theorem outcome_forward_iff {w : Uplink} {datagram : Bytes} {reply : LineReply}
    {outcome : Outcome} :
    (w.forward datagram reply).outcome = outcome ↔
      LineDecides w.backpressure datagram reply outcome := by
  have hends (wait : WaitOutcome) (hwait : wait ≠ .pending) :
      (w.backpressure.wait datagram.length reply.polls).1 = wait ↔
        w.backpressure.EndsIn datagram.length reply.polls wait :=
    Backpressure.wait_eq_iff hwait
  have hpending : (w.backpressure.wait datagram.length reply.polls).1 = .pending ↔
      ∀ poll ∈ reply.polls, w.backpressure.GoesOn datagram.length poll :=
    Backpressure.wait_eq_pending_iff
  unfold forward
  -- From here on only what waiting came to counts, and the two facts above tell what it means.
  generalize w.backpressure.wait datagram.length reply.polls = answer at hends hpending
  obtain ⟨wait, readings⟩ := answer
  constructor
  · rintro rfl
    cases wait with
    | pending => exact .undecided (hpending.1 rfl)
    | failed reason => exact .unanswered reason ((hends (.failed reason) nofun).1 rfl)
    | stalled waited queued =>
      exact .full waited queued ((hends (.stalled waited queued) nofun).1 rfl)
    | ready waited =>
      have hroom := (hends (.ready waited) nofun).1 rfl
      cases hwrite : reply.writeFailure with
      | none => exact .taken waited hroom hwrite
      | some reason => exact .unwritten waited reason hroom hwrite
  · intro h
    cases h with
    | taken waited hroom hwrite =>
      obtain rfl : wait = .ready waited := (hends (.ready waited) nofun).2 hroom
      rw [hwrite]
    | unwritten waited reason hroom hwrite =>
      obtain rfl : wait = .ready waited := (hends (.ready waited) nofun).2 hroom
      rw [hwrite]
    | unanswered reason hquery =>
      obtain rfl : wait = .failed reason := (hends (.failed reason) nofun).2 hquery
      rfl
    | full waited queued hfull =>
      obtain rfl : wait = .stalled waited queued :=
        (hends (.stalled waited queued) nofun).2 hfull
      rfl
    | undecided hgoes =>
      obtain rfl : wait = .pending := hpending.2 hgoes
      rfl

/-- A datagram is written if it is admitted, and counted once, unless the worker has to stop. -/
theorem handle_settled_or_abandoned (w : Uplink) (datagram : Bytes) (sender : SocketAddress)
    (now : Nat) (reply : LineReply) :
    (w.handle datagram sender now reply).Settled w
        (if isAdmitted w.rcLocked datagram then [datagram] else []) ∨
      (w.handle datagram sender now reply).Abandoned w := by
  cases hinspect : Frame.inspect datagram with
  | error e =>
    have hrefused : isAdmitted w.rcLocked datagram = false := by simp only [isAdmitted, hinspect]
    rw [handle_of_malformed hinspect, hrefused]
    -- It counts one datagram and no bytes, as nothing is written.
    refine Or.inl ⟨rfl, rfl, malformedCount e, rfl, countsOnce_malformed e, ?_⟩
    cases e <;> rfl
  | ok header =>
    have hadmitted : isAdmitted w.rcLocked datagram = !w.blocks header datagram := by
      simp only [isAdmitted, hinspect, blocks]
    cases hblocks : w.blocks header datagram with
    | true =>
      rw [handle_of_blocked hinspect hblocks, hadmitted, hblocks]
      exact Or.inl ⟨rfl, rfl, _, rfl, countsOnce_armBlocked, rfl⟩
    | false =>
      rw [handle_of_passed hinspect hblocks, hadmitted, hblocks]
      -- Learning from the sender leaves the counters alone, so that forwarding decides.
      rcases forward_settled_or_abandoned (w.learn sender header now) datagram reply with h | h
      · exact Or.inl ⟨h.ending, h.writes_eq, h.counted⟩
      · exact Or.inr ⟨h.ending, h.writes_eq, h.counters_eq⟩

/-- Only an admitted datagram can make the worker stop. -/
theorem isAdmitted_of_ending {w : Uplink} {datagram : Bytes} {sender : SocketAddress} {now : Nat}
    {reply : LineReply} (h : (w.handle datagram sender now reply).outcome.ending? ≠ none) :
    isAdmitted w.rcLocked datagram = true := by
  cases hinspect : Frame.inspect datagram with
  | error e =>
    rw [handle_of_malformed hinspect] at h
    exact absurd rfl h
  | ok header =>
    cases hblocks : w.blocks header datagram with
    | true =>
      rw [handle_of_blocked hinspect hblocks] at h
      exact absurd rfl h
    | false =>
      simp only [isAdmitted, hinspect]
      exact congrArg Bool.not hblocks

/-- What becomes of an admitted datagram is what the line makes of it. -/
theorem outcome_handle_iff {w : Uplink} {datagram : Bytes} {sender : SocketAddress} {now : Nat}
    {reply : LineReply} {outcome : Outcome} (h : isAdmitted w.rcLocked datagram = true) :
    (w.handle datagram sender now reply).outcome = outcome ↔
      LineDecides w.backpressure datagram reply outcome := by
  cases hinspect : Frame.inspect datagram with
  | error e =>
    simp only [isAdmitted, hinspect] at h
    cases h
  | ok header =>
    have hpasses : w.blocks header datagram = false := by
      simp only [isAdmitted, hinspect] at h
      exact Bool.not_eq_true' _ ▸ h
    rw [handle_of_passed hinspect hpasses]
    -- Learning from the sender leaves alone how the worker waits.
    exact outcome_forward_iff (w := w.learn sender header now)

theorem lineDecides_handle {w : Uplink} {datagram : Bytes} (sender : SocketAddress) (now : Nat)
    (reply : LineReply) (h : isAdmitted w.rcLocked datagram = true) :
    LineDecides w.backpressure datagram reply (w.handle datagram sender now reply).outcome :=
  (outcome_handle_iff h).1 rfl

/-! ## One action -/

/-- The gate as last read after an action. -/
def Action.locked (locked : Bool) : Action → Bool
  | .readGate locked => locked
  | _ => locked

/-- What an action has to put on the line. -/
def Action.admitted (locked : Bool) : Action → List Bytes
  | .treat datagram _ _ _ => if isAdmitted locked datagram then [datagram] else []
  | _ => []

/-- The gate as last read after all of the actions. -/
def lockedAfter (locked : Bool) (actions : List Action) : Bool :=
  actions.foldl Action.locked locked

/-- The line takes what an action has to put on it. -/
def Action.Taken (b : Backpressure) (locked : Bool) : Action → Prop
  | .treat datagram _ _ reply =>
    isAdmitted locked datagram = true → LineDecides b datagram reply .forwarded
  | _ => True

/-- The line takes every admitted datagram. -/
def AllTaken (b : Backpressure) : Bool → List Action → Prop
  | _, [] => True
  | locked, a :: rest => a.Taken b locked ∧ AllTaken b (a.locked locked) rest

/-- What the first action has to put on the line comes before the rest, which goes by the gate that
the action leaves behind. -/
theorem admitted_cons (locked : Bool) (a : Action) (rest : List Action) :
    Uplink.admitted locked (a :: rest) =
      a.admitted locked ++ Uplink.admitted (a.locked locked) rest := by
  cases a with
  | readGate | purge | purgeIfDue => rfl
  | treat datagram sender now reply =>
    simp only [Uplink.admitted, Action.admitted, Action.locked]
    split <;> rfl

theorem uplink_purgeIfDue (w : Uplink) (now : Nat) :
    (w.purgeIfDue now).state.uplink = w.state.uplink ∧
      (w.purgeIfDue now).rcLocked = w.rcLocked := by
  unfold purgeIfDue
  split <;> exact ⟨rfl, rfl⟩

/-- Only reading the gate changes the gate as last read. -/
theorem rcLocked_perform (w : Uplink) (a : Action) :
    (w.perform a).worker.rcLocked = a.locked w.rcLocked := by
  cases a with
  | readGate | purge => rfl
  | purgeIfDue now => exact (w.uplink_purgeIfDue now).2
  | treat datagram sender now reply => exact w.rcLocked_handle datagram sender now reply

/-- No action changes how the worker waits for room. -/
theorem backpressure_perform (w : Uplink) (a : Action) :
    (w.perform a).worker.backpressure = w.backpressure := by
  cases a with
  | readGate | purge => rfl
  | purgeIfDue now =>
    show (w.purgeIfDue now).backpressure = _
    unfold purgeIfDue
    split <;> rfl
  | treat datagram sender now reply =>
    obtain ⟨_, hworker⟩ := w.worker_handle datagram sender now reply
    show (w.handle datagram sender now reply).worker.backpressure = _
    rw [hworker]

/-- The loop goes on after an action exactly if the line takes what the action puts on it. -/
theorem ending_perform_iff {w : Uplink} {a : Action} :
    (w.perform a).ending = .stopped ↔ a.Taken w.backpressure w.rcLocked := by
  cases a with
  | readGate | purge | purgeIfDue => exact iff_of_true rfl trivial
  | treat datagram sender now reply =>
    show (w.handle datagram sender now reply).outcome.ending?.getD .stopped = .stopped ↔ _
    constructor
    · intro hstopped hadmitted
      -- Of the ways in which the line can decide, only taking the datagram lets the loop go on.
      have hdecides := lineDecides_handle sender now reply hadmitted
      revert hdecides hstopped
      generalize (w.handle datagram sender now reply).outcome = outcome
      intro hstopped hdecides
      cases hdecides with
      | taken waited hroom hwrite => exact .taken waited hroom hwrite
      | unwritten | unanswered | full | undecided => cases hstopped
    · intro htaken
      by_cases hending : (w.handle datagram sender now reply).outcome.ending? = none
      · rw [hending]
        rfl
      · have hadmitted := isAdmitted_of_ending hending
        rw [(outcome_handle_iff hadmitted).2 (htaken hadmitted)]
        rfl

/-- An action after which the loop goes on writes what is admitted and counts its bytes. -/
theorem perform_of_stopped {w : Uplink} {a : Action} (h : (w.perform a).ending = .stopped) :
    (w.perform a).writes = a.admitted w.rcLocked ∧
      (w.perform a).worker.state.uplink.bytes =
        w.state.uplink.bytes + (w.perform a).writes.flatten.length := by
  cases a with
  | readGate | purge => exact ⟨rfl, rfl⟩
  | purgeIfDue now => exact ⟨rfl, congrArg UplinkCounters.bytes (w.uplink_purgeIfDue now).1⟩
  | treat datagram sender now reply =>
    rcases handle_settled_or_abandoned w datagram sender now reply with hdone | hfail
    · obtain ⟨events, hcounters, -, hbytes⟩ := hdone.counted
      refine ⟨hdone.writes_eq, ?_⟩
      show (w.handle datagram sender now reply).worker.state.uplink.bytes = _ +
        (w.handle datagram sender now reply).writes.flatten.length
      rw [hcounters, bytes_add, hbytes, hdone.writes_eq]
    -- A datagram that was abandoned has ended the loop.
    · exfalso
      obtain ⟨ending, hending⟩ := Option.ne_none_iff_exists'.1 hfail.ending
      have hstopped : ending = .stopped := by simpa [perform, hending] using h
      rw [hstopped] at hending
      cases houtcome : (w.handle datagram sender now reply).outcome <;>
        simp [houtcome, Outcome.ending?] at hending

/-- An action that ends the loop is a datagram that makes the worker stop. Nothing is written for
it, and nothing is counted. -/
theorem perform_of_ended {w : Uplink} {a : Action} (h : (w.perform a).ending ≠ .stopped) :
    (w.perform a).writes = [] ∧
      (w.perform a).worker.state.uplink.bytes = w.state.uplink.bytes ∧
      ∃ datagram sender now reply, a = .treat datagram sender now reply ∧
        (w.handle datagram sender now reply).outcome.ending? = some (w.perform a).ending := by
  cases a with
  | readGate | purge | purgeIfDue => exact absurd rfl h
  | treat datagram sender now reply =>
    rcases handle_settled_or_abandoned w datagram sender now reply with hdone | hfail
    · exact absurd (by simp [perform, hdone.ending]) h
    · obtain ⟨ending, hending⟩ := Option.ne_none_iff_exists'.1 hfail.ending
      refine ⟨hfail.writes_eq, congrArg UplinkCounters.bytes hfail.counters_eq, _, _, _, _, rfl, ?_⟩
      simp [perform, hending]

/-! ## Whole runs -/

/-- A run writes the admitted part of what was completed, and counts its bytes. -/
theorem follow_writes (w : Uplink) (actions : List Action) :
    ∃ done rest, Completed w actions done rest ∧
      (w.follow perform actions).writes = admitted w.rcLocked done ∧
      (w.follow perform actions).worker.state.uplink.bytes =
        w.state.uplink.bytes + (w.follow perform actions).writes.flatten.length := by
  -- On the actions. One after which the loop goes on belongs to what is completed; the first other
  -- one is where the rest starts.
  induction actions generalizing w with
  | nil => exact ⟨[], [], ⟨rfl, rfl, Or.inl rfl⟩, rfl, rfl⟩
  | cons a actions ih =>
    by_cases ha : (w.perform a).ending = .stopped
    · obtain ⟨done, rest, hcompleted, hwrites, hbytes⟩ := ih (w.perform a).worker
      obtain ⟨hfirst, hfirstBytes⟩ := perform_of_stopped ha
      refine ⟨a :: done, rest, hcompleted.cons ha, ?_, ?_⟩
      · rw [follow_cons, Ran.writes_andThen_of_stopped ha, hfirst, hwrites, rcLocked_perform,
          admitted_cons]
      · rw [follow_cons, Ran.writes_andThen_of_stopped ha, Ran.andThen_of_stopped ha,
          List.flatten_append, List.length_append]
        show ((w.perform a).worker.follow perform actions).worker.state.uplink.bytes = _
        rw [hbytes, hfirstBytes, Nat.add_assoc]
    · obtain ⟨hnone, hbytes, datagram, sender, now, reply, rfl, hending⟩ := perform_of_ended ha
      have hfollow : w.follow perform (.treat datagram sender now reply :: actions) =
          w.perform (.treat datagram sender now reply) :=
        Ran.andThen_of_ended ha
      refine ⟨[], .treat datagram sender now reply :: actions, ⟨rfl, rfl, Or.inr ?_⟩, ?_, ?_⟩
      · exact ⟨datagram, sender, now, reply, actions, rfl, hfollow ▸ hending⟩
      · rw [hfollow, hnone]
        rfl
      · rw [hfollow, hnone, hbytes]
        rfl

/-- The loop goes through all actions exactly if the line takes every admitted datagram. -/
theorem ending_follow_iff {w : Uplink} {actions : List Action} :
    (w.follow perform actions).ending = .stopped ↔
      AllTaken w.backpressure w.rcLocked actions := by
  -- The gate and the waiting after one action are what `AllTaken` goes on with.
  induction actions generalizing w with
  | nil => exact iff_of_true rfl trivial
  | cons a rest ih =>
    by_cases ha : (w.perform a).ending = .stopped
    · have hrest := ih (w := (w.perform a).worker)
      rw [backpressure_perform, rcLocked_perform] at hrest
      rw [follow_cons, Ran.andThen_of_stopped ha]
      exact hrest.trans (and_iff_right (ending_perform_iff.1 ha)).symm
    · rw [follow_cons, Ran.andThen_of_ended ha]
      exact iff_of_false ha fun htaken => ha (ending_perform_iff.2 htaken.1)

theorem backpressure_follow (w : Uplink) (actions : List Action) :
    (w.follow perform actions).worker.backpressure = w.backpressure := by
  induction actions generalizing w with
  | nil => rfl
  | cons a rest ih =>
    by_cases ha : (w.perform a).ending = .stopped
    · rw [follow_cons, Ran.andThen_of_stopped ha]
      exact (ih _).trans (w.backpressure_perform a)
    · rw [follow_cons, Ran.andThen_of_ended ha]
      exact w.backpressure_perform a

/-- As long as the loop goes on, the gate is as it was read last. -/
theorem rcLocked_follow {w : Uplink} {actions : List Action}
    (h : (w.follow perform actions).ending = .stopped) :
    (w.follow perform actions).worker.rcLocked = lockedAfter w.rcLocked actions := by
  induction actions generalizing w with
  | nil => rfl
  | cons a rest ih =>
    have ha : (w.perform a).ending = .stopped :=
      ending_perform_iff.2 (ending_follow_iff.1 h).1
    rw [follow_cons, Ran.andThen_of_stopped ha] at h ⊢
    exact (ih h).trans (congrArg (lockedAfter · rest) (w.rcLocked_perform a))

/-- What makes the worker stop is an admitted datagram that the line does not take. -/
theorem Completed.decided {w : Uplink} {actions done rest : List Action}
    (h : Completed w actions done rest) :
    (rest = [] ∧ (w.follow perform actions).ending = .stopped) ∨
    ∃ datagram sender now reply later outcome, rest = .treat datagram sender now reply :: later ∧
      isAdmitted (lockedAfter w.rcLocked done) datagram = true ∧
      LineDecides w.backpressure datagram reply outcome ∧
      outcome.ending? = some (w.follow perform actions).ending := by
  rcases h.next with rfl | ⟨datagram, sender, now, reply, later, rfl, hending⟩
  · refine Or.inl ⟨rfl, ?_⟩
    rw [h.split, List.append_nil]
    exact h.stopped
  · have hadmitted := isAdmitted_of_ending (hending ▸ Option.some_ne_none _)
    have hdecides := lineDecides_handle sender now reply hadmitted
    -- The last datagram goes by the gate that was read last before it.
    rw [rcLocked_follow h.stopped] at hadmitted
    rw [backpressure_follow] at hdecides
    exact Or.inr ⟨datagram, sender, now, reply, later, _, rfl, hadmitted, hdecides, hending⟩

/-- A loop that goes on to the end writes all that is admitted. -/
theorem writes_follow_of_stopped {w : Uplink} {actions : List Action}
    (h : (w.follow perform actions).ending = .stopped) :
    (w.follow perform actions).writes = admitted w.rcLocked actions := by
  obtain ⟨done, rest, hcompleted, hwrites, -⟩ := follow_writes w actions
  rcases hcompleted.decided with ⟨rfl, -⟩ | ⟨-, -, -, -, -, outcome, -, -, -, hending⟩
  · rw [hwrites, hcompleted.split, List.append_nil]
  · -- Nothing that makes the worker stop leaves the loop going.
    rw [h] at hending
    cases outcome <;> cases hending

/-- **The serial output is exactly the admitted traffic.** Whatever the worker is given to do, it
writes the admitted datagrams, unchanged and in order, and nothing else. It does so up to the end,
or up to the first admitted datagram that the line does not take: the line fails to answer, shows
too little room until the time is up, or fails to write. The counted bytes are those of the writes.

If for every datagram some look at the line does not make the worker wait on, then only an error
ends the run, and if the line takes all admitted datagrams, then all of them are written. A datagram
that does not make the worker stop is counted exactly once, whatever the state of the worker. The
loop writes and ends as it does when it is followed action by action. -/
theorem writes_eq_admitted (w : Uplink) (actions : List Action) :
    let r := w.follow perform actions
    (∃ done rest, actions = done ++ rest ∧ AllTaken w.backpressure w.rcLocked done ∧
      r.writes = admitted w.rcLocked done ∧
      ((rest = [] ∧ r.ending = .stopped) ∨
        ∃ datagram sender now reply later outcome,
          rest = .treat datagram sender now reply :: later ∧
          isAdmitted (lockedAfter w.rcLocked done) datagram = true ∧
          LineDecides w.backpressure datagram reply outcome ∧
          outcome.ending? = some r.ending)) ∧
    r.worker.state.uplink.bytes = w.state.uplink.bytes + r.writes.flatten.length ∧
    ((∀ datagram sender now reply, .treat datagram sender now reply ∈ actions →
        ∃ poll ∈ reply.polls, ¬ w.backpressure.GoesOn datagram.length poll) →
      r.ending = .stopped ∨ ∃ error, r.ending = .failed error) ∧
    (AllTaken w.backpressure w.rcLocked actions →
      r.ending = .stopped ∧ r.writes = admitted w.rcLocked actions) ∧
    (∀ (v : Uplink) (datagram : Bytes) (sender : SocketAddress) (now : Nat) (reply : LineReply),
      (v.handle datagram sender now reply).outcome.ending? = none →
      ∃ events, (v.handle datagram sender now reply).worker.state.uplink =
        v.state.uplink + events ∧ CountsOnce events) ∧
    ∀ iterations, let whole := w.follow perform (iterations.flatMap Iteration.actions)
      (w.run iterations).writes = whole.writes ∧ (w.run iterations).ending = whole.ending := by
  intro r
  obtain ⟨done, rest, hcompleted, hwrites, hbytes⟩ := follow_writes w actions
  have hdecided := hcompleted.decided
  refine ⟨⟨done, rest, hcompleted.split, ending_follow_iff.1 hcompleted.stopped, hwrites,
    hdecided⟩, hbytes, ?_, ?_, ?_, ?_⟩
  · intro hanswered
    rcases hdecided with ⟨-, hstopped⟩ |
      ⟨datagram, sender, now, reply, later, outcome, rfl, -, hdecides, hending⟩
    · exact Or.inl hstopped
    · have hmem : .treat datagram sender now reply ∈ actions := by
        rw [hcompleted.split]
        exact List.mem_append_right done List.mem_cons_self
      cases hdecides with
      | taken => cases hending
      | unwritten | unanswered | full => exact Or.inr ⟨_, (Option.some.inj hending).symm⟩
      | undecided hgoes =>
        -- Some look does not let the relay wait on, so that the line has decided.
        obtain ⟨poll, hpoll, hends⟩ := hanswered datagram sender now reply hmem
        exact absurd (hgoes poll hpoll) hends
  · intro htaken
    have hstopped : r.ending = .stopped := ending_follow_iff.2 htaken
    exact ⟨hstopped, writes_follow_of_stopped hstopped⟩
  · intro v datagram sender now reply hending
    rcases handle_settled_or_abandoned v datagram sender now reply with hdone | hfail
    · obtain ⟨events, hcounters, honce, -⟩ := hdone.counted
      exact ⟨events, hcounters, honce⟩
    · exact absurd hending hfail.ending
  · intro iterations whole
    have hruns : (w.run iterations).uncounted = whole.uncounted := w.run_uncounted iterations
    have hsame := congrArg Ran.writes hruns
    have hends := congrArg Ran.ending hruns
    exact ⟨hsame, hends⟩

/-- Four datagrams, of which the line is too crowded for the first one at first: a frame, a request
to arm, something that is no frame, and the request once more. The gate is unlocked for the last. -/
def gatedRun : List Iteration :=
  let frame : Bytes := [0xFE, 0, 0, 1, 1, 0, 0, 0]
  let sender : SocketAddress := .v4 ⟨10, 0, 0, 2⟩ 14550
  let crowded : LineReply := { polls := [⟨.bytes 4090, 0⟩, ⟨.bytes 4000, 600000⟩] }
  let empty : LineReply := { polls := [⟨.bytes 0, 0⟩] }
  [⟨true, .datagram frame sender 1 1 crowded⟩,
   ⟨true, .datagram (armingDatagram 21) sender 2 2 empty⟩,
   ⟨true, .datagram [0x42, 0x42] sender 3 3 empty⟩,
   ⟨false, .datagram (armingDatagram 21) sender 4 4 empty⟩]

/-- The frame and the second request are written, each once, and nothing else is. -/
theorem request_written_when_unlocked :
    AllTaken lockedWorker.backpressure true (gatedRun.flatMap Iteration.actions) ∧
    (lockedWorker.run gatedRun).ending = .stopped ∧
    (lockedWorker.run gatedRun).writes = [[0xFE, 0, 0, 1, 1, 0, 0, 0], armingDatagram 21] := by
  have hwaits : lockedWorker.backpressure.GoesOn 8 ⟨.bytes 4090, 0⟩ :=
    ⟨4090, rfl, by decide, by decide⟩
  have hroom (needed : Nat) (hneeded : needed ≤ 4096) :
      lockedWorker.backpressure.EndsIn needed [⟨.bytes 0, 0⟩] (.ready false) :=
    ⟨[], _, [], rfl, nofun, .room 0 0 hneeded⟩
  have htaken : AllTaken lockedWorker.backpressure true (gatedRun.flatMap Iteration.actions) := by
    refine ⟨trivial, fun _ => ?_, trivial, trivial, fun hadmitted => ?_, trivial, trivial,
      fun hadmitted => ?_, trivial, trivial, fun _ => .taken false (hroom _ (by decide)) rfl,
      trivial, trivial⟩
    · exact .taken true ⟨[_], _, [], rfl, List.forall_mem_singleton.2 hwaits,
        .room 4000 600000 (by decide)⟩ rfl
    -- The request is held back, and what is no frame is not passed on.
    · exact absurd hadmitted (by decide)
    · exact absurd hadmitted (by decide)
  obtain ⟨-, -, -, hall, -, hloop⟩ :=
    writes_eq_admitted lockedWorker (gatedRun.flatMap Iteration.actions)
  obtain ⟨hstopped, hwrites⟩ := hall htaken
  obtain ⟨hsame, hends⟩ := hloop gatedRun
  -- What the run has to write can be told without running it.
  have hadmitted : admitted true (gatedRun.flatMap Iteration.actions) =
      [[0xFE, 0, 0, 1, 1, 0, 0, 0], armingDatagram 21] := by decide
  exact ⟨htaken, hends.trans hstopped, hsame.trans (hwrites.trans hadmitted)⟩

end VehicleLink.Uplink
