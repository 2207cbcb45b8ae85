import VehicleLink.Proofs.Downlink.Actions
import VehicleLink.Proofs.Report.Accounts
import VehicleLink.Proofs.Uplink.Runs

/-!
# Statistics neither lose nor double-count

Neither worker reads the accounts. What a worker does to them can therefore be written down as
entries that do not depend on what the others do meanwhile (`Downlink.performAll_on`,
`Uplink.follow_on`), and so any interleaving of two runs with the reporter is a list of steps as in
`Reporting.after`.

What the downlink worker counts on its own is seen by nobody before it is published; all that one
action counts is put down as one entry (`Downlink.Counts`). At the end of a run comes an entry that
publishes, whichever way the run ends.
-/

namespace VehicleLink

/-- The state with these accounts instead of its own. -/
def State.on (s : State) (a : Accounts) : State :=
  { s with streams := a.streams, uplink := a.uplink, downlink := a.downlink }

/-- Two counts in a row are one count of both. -/
theorem Accounts.post_count_add (a : Accounts) (events more : DownlinkCounters) :
    (a.post (.count events)).post (.count more) = a.post (.count (events + more)) :=
  congrArg (fun pending => { a with pending }) (add_assoc a.pending events more)

namespace Downlink

/-! ## What the downlink worker enters -/

/-- The worker with these accounts instead of its own. -/
def on (w : Downlink) (a : Accounts) : Downlink :=
  { w with pending := a.pending, state := w.state.on a }

/-- Whatever the accounts are, the worker does the same, and counts the same on its own. -/
def Counts (f : Downlink → Downlink) (w : Downlink) : Prop :=
  ∃ events, ∀ a, f (w.on a) = (f w).on (a.post (.count events))

variable {f g : Downlink → Downlink} (net : Network) (w : Downlink)

/-- What does the same whatever the accounts are, and leaves them alone, counts nothing. -/
theorem Counts.nothing {w : Downlink} (h : ∀ a, f (w.on a) = (f w).on a) : Counts f w :=
  ⟨0, h⟩

/-- Of two things done in a row, the counts add up. -/
theorem Counts.comp {w : Downlink} (hf : Counts f w) (hg : Counts g (f w)) :
    Counts (fun v => g (f v)) w := by
  obtain ⟨events, hevents⟩ := hf
  obtain ⟨more, hmore⟩ := hg
  refine ⟨events + more, fun a => ?_⟩
  show g (f (w.on a)) = _
  rw [hevents, hmore, Accounts.post_count_add]

/-- What is done for each of a list counts on its own, if every single step does so in every state.
-/
theorem Counts.foldl {α : Type} {step : Downlink → α → Downlink}
    (hstep : ∀ v x, Counts (fun v => step v x) v) (l : List α) :
    Counts (fun v => l.foldl step v) w := by
  induction l generalizing w with
  | nil => exact .nothing fun _ => rfl
  | cons x rest ih => exact (hstep w x).comp (ih (step w x))

/-- If two things are the same to the worker whatever the accounts are, both count the same. -/
theorem Counts.congr {w : Downlink} (hg : Counts g w) (h : ∀ a, f (w.on a) = g (w.on a)) :
    Counts f w := by
  obtain ⟨events, hevents⟩ := hg
  -- The worker with its own accounts is the worker itself.
  have hown : f w = g w := h ⟨w.state.streams, w.state.uplink, w.state.downlink, w.pending⟩
  refine ⟨events, fun a => ?_⟩
  rw [h, hown, hevents]

/-- A choice that the accounts have no say in. -/
theorem Counts.ite {w : Downlink} {p : Downlink → Prop} [DecidablePred p] (hf : Counts f w)
    (hg : Counts g w) (hp : ∀ a, p (w.on a) ↔ p w) :
    Counts (fun v => if p v then f v else g v) w := by
  by_cases h : p w
  · exact hf.congr fun a => if_pos ((hp a).2 h)
  · exact hg.congr fun a => if_neg fun ha => h ((hp a).1 ha)

/-- What is counted is what is pending afterwards, when nothing was before. -/
theorem Counts.eq {w : Downlink} (h : Counts f w) (a : Accounts) :
    f (w.on a) = (f w).on (a.post (.count (f (w.on {})).pending)) := by
  obtain ⟨events, hevents⟩ := h
  have hpending : (f (w.on {})).pending = events := by
    rw [hevents]
    exact zero_add events
  rw [hpending, hevents]

/-- Counting counts what is to be counted, and the worker does not look at the sum. -/
theorem counts_count (events : DownlinkCounters) : Counts (fun v => v.count events) w :=
  ⟨events, fun _ => rfl⟩

/-- A datagram that was sent counts what it is worth, one that was not counts as a failure. -/
theorem counts_send (target : SocketAddress) (bytes : Bytes) (credit : DownlinkCounters) :
    Counts (fun v => v.send net target bytes credit) w := by
  -- Whether the datagram arrives is up to the network and to how many were sent before, not to the
  -- accounts.
  cases hdelivery : net.delivery w.sent.size target with
  | delivered =>
    refine ⟨credit, fun a => ?_⟩
    simp only [send, on, hdelivery]
    rfl
  | failed reason now =>
    refine ⟨{ sendFailures := 1 }, fun a => ?_⟩
    simp only [send, on, hdelivery]
    rfl

/-- A batch that is handed over counts as one datagram, and an empty one as none. -/
theorem counts_flush : Counts (fun v => v.flush net) w := by
  -- The batch is the same on all accounts, so that one case serves for all of them.
  cases htake : w.aggregate.take? w.batch (net.wallMicros w.sent.size) with
  | none =>
    refine .nothing fun a => ?_
    simp only [flush, on, htake]
  | some taken =>
    have htaken : Counts
        (fun v : Downlink => { v with aggregate := taken.2, batch := v.batch + 1 }) w :=
      .nothing fun _ => rfl
    refine (htaken.comp (counts_send net _ w.state.primary taken.1
      { aggregatesSent := 1, aggregateBytes := taken.1.length })).congr fun a => ?_
    simp only [flush, on, htake]
    rfl

/-- Putting a datagram into the batch counts nothing. -/
theorem counts_addIfRoom (bytes : Bytes) (micros : UInt64) :
    Counts (fun v => v.addIfRoom bytes micros) w := by
  refine .nothing fun a => ?_
  show addIfRoom (w.on a) bytes micros = _
  unfold addIfRoom on
  cases w.aggregate.append bytes micros <;> rfl

/-- If the batch is full, what is counted is the handing over of it. -/
theorem counts_collect (bytes : Bytes) (micros : UInt64) :
    Counts (fun v => v.collect net bytes micros) w := by
  cases happend : w.aggregate.append bytes micros with
  | ok aggregate =>
    refine .nothing fun a => ?_
    simp only [collect, on, happend]
  | error e =>
    cases e with
    -- Only a full batch is handed over, and then the datagram is tried once more.
    | aggregateOverflow needed remaining =>
      refine ((counts_flush net w).comp (counts_addIfRoom (w.flush net) bytes micros)).congr
        fun a => ?_
      simp only [collect, on, happend]
    | _ =>
      refine .nothing fun a => ?_
      simp only [collect, on, happend]

/-- Putting a frame into the batch counts no more than the batches that are handed over. -/
theorem counts_aggregateFrame (bytes : Bytes) (micros : UInt64) :
    Counts (fun v => v.aggregateFrame net bytes micros) w := by
  -- Whether the batch goes at once is told by the gate, not by the accounts.
  have hflushed (v : Downlink) : Counts (fun v => if v.flushesAtOnce then v.flush net else v) v :=
    (counts_flush net v).ite (.nothing fun _ => rfl) fun _ => Iff.rfl
  exact (counts_collect net w bytes micros).comp (hflushed _)

/-- Passing on counts each of the clients that are found. -/
theorem counts_fanOut (bytes : Bytes) (targets : Option Targets) :
    Counts (fun v => v.fanOut net bytes targets) w := by
  -- The directory, and with it the recipients, are the same on all accounts.
  have hlook : Counts (fun v : Downlink => { v with
      messages := v.messages + 1
      state := { v.state with
        directory := v.state.directory.after (net.meanwhile v.messages) } }) w :=
    .nothing fun _ => rfl
  exact (hlook.comp (Counts.foldl _
    (fun v client => counts_send net v client bytes { fanoutDatagrams := 1 })
    ((w.state.directory.after (net.meanwhile w.messages)).recipients targets))).congr fun _ => rfl

/-- Meeting the deadline counts no more than the batch that is handed over. -/
theorem counts_meetDeadline (now : Nat) : Counts (fun v => v.meetDeadline net now) w := by
  have hlog (v : Downlink) : Counts (fun v =>
      { v with
        nextFlush := Deadline.advance v.flushInterval v.nextFlush now
        sendFailures := (v.sendFailures.flush now).2 }.report
          (v.sendFailures.flush now).1.toList) v := .nothing fun _ => rfl
  exact ((counts_flush net w).comp (hlog _)).ite (.nothing fun _ => rfl) fun _ => Iff.rfl

/-- The clock of the vehicle is on nobody's account. -/
theorem counts_observeClock (f : Frame) : Counts (fun v => v.observeClock f) w := by
  refine .nothing fun a => ?_
  show observeClock (w.on a) f = _
  unfold observeClock
  split
  · split <;> rfl
  · rfl

/-- A frame for the primary controller counts as bulk, or for the batch that it makes go. -/
theorem counts_passToPrimary (f : Frame) (micros : UInt64) :
    Counts (fun v => v.passToPrimary net f micros) w :=
  (counts_count w { bulkFrames := 1 }).ite (counts_aggregateFrame net w f.bytes micros)
    fun _ => Iff.rfl

/-- What is done with a frame besides taking note of its stream. -/
theorem counts_passOn (f : Frame) (micros : UInt64) :
    Counts (fun v => (v.passToPrimary net f micros).fanOut net f.bytes
      (Targets.ofPayload? f.header.messageId f.payload)) w :=
  (counts_passToPrimary net w f micros).comp (counts_fanOut net _ f.bytes _)

/-- What the worker counts on its own while it does something. -/
def counted (action : Action) : DownlinkCounters := ((w.on {}).perform net action).pending

/-- The stream of the frame's source is followed. -/
def observed (f : Frame) : Accounts.Entry :=
  .observe ⟨f.header.system, f.header.component⟩ f.header.sequence f.checksumOk

/-- The entries that go with an action in which these events are counted. -/
def Action.entries (events : DownlinkCounters) : Action → List Accounts.Entry
  | .publish => [.publish]
  | .treat (.frame f _) => [observed f, .count events]
  | _ => [.count events]

/-- Whatever the accounts are, an action does the same and makes the same entries. -/
theorem perform_on (action : Action) (a : Accounts) :
    (w.on a).perform net action =
      (w.perform net action).on (a.postAll (action.entries (w.counted net action))) := by
  cases action with
  | publish => rfl
  -- These count nothing.
  | begin | readGate | addBlocked | reportInjection | finish =>
    exact Counts.eq (f := fun v => v.perform net _) (.nothing fun _ => rfl) a
  | scan piece =>
    exact Counts.eq (f := fun v => v.perform net (.scan piece))
      ⟨{ serialBytes := piece.length }, fun _ => rfl⟩ a
  | countNoise =>
    exact Counts.eq (f := fun v => v.perform net .countNoise)
      ⟨{ discardedBytes := w.scanner.discarded - w.reportedDiscarded }, fun _ => rfl⟩ a
  | meetDeadline now => exact (counts_meetDeadline net w now).eq a
  | flush => exact (counts_flush net w).eq a
  | treat arrival =>
    cases arrival with
    | injected bytes micros =>
      exact (((counts_count w { injected := 1 }).comp
        (counts_aggregateFrame net _ bytes micros)).comp (counts_fanOut net _ bytes none)).eq a
    | frame f micros =>
      obtain ⟨noted, hnoted⟩ := (counts_count w
        { frames := 1, checksumFailed := if f.checksumOk then 0 else 1 }).comp
          (counts_observeClock _ f)
      obtain ⟨passed, hpassed⟩ := counts_passOn net (w.note f) f micros
      -- The stream is followed between the two, but no counter knows of that.
      have htreat (b : Accounts) : (w.on b).treat net (.frame f micros) =
          (w.treat net (.frame f micros)).on (b.postAll [observed f, .count (noted + passed)]) := by
        have hnote : (w.on b).note f = (w.note f).on ((b.post (observed f)).post (.count noted)) :=
          congrArg (fun v => v.observeStream f) (hnoted b)
        refine (congrArg (fun v => (passToPrimary net v f micros).fanOut net f.bytes
          (Targets.ofPayload? f.header.messageId f.payload)) hnote).trans ?_
        refine (hpassed _).trans ?_
        rw [Accounts.post_count_add]
        rfl
      -- With nothing on the accounts before, what is pending afterwards is what was counted.
      have hcounted : w.counted net (.treat (.frame f micros)) = noted + passed := by
        refine (congrArg Downlink.pending (htreat {})).trans ?_
        exact zero_add (noted + passed)
      rw [hcounted]
      exact htreat a

/-- The entries that go with some actions. -/
def entries (w : Downlink) : List Action → List Accounts.Entry
  | [] => []
  | action :: rest => action.entries (w.counted net action) ++ (w.perform net action).entries rest

/-- Whatever the accounts are, actions in a row do the same and make the same entries. -/
theorem performAll_on (actions : List Action) (a : Accounts) :
    (w.on a).performAll net actions =
      (w.performAll net actions).on (a.postAll (w.entries net actions)) := by
  induction actions generalizing w a with
  | nil => rfl
  | cons action rest ih =>
    rw [performAll_cons, perform_on, ih, entries, Accounts.postAll_append]
    rfl

/-- None of the entries is the uplink worker's. -/
theorem isUplink_of_mem_entries (actions : List Action) :
    ∀ e ∈ w.entries net actions, e.isUplink = false := by
  induction actions generalizing w with
  | nil => exact fun e he => absurd he List.not_mem_nil
  | cons action rest ih =>
    intro e he
    rcases List.mem_append.1 he with hfirst | hrest
    · unfold Action.entries at hfirst
      split at hfirst <;> simp only [List.mem_cons, List.not_mem_nil, or_false] at hfirst
      · exact hfirst ▸ rfl
      · rcases hfirst with rfl | rfl <;> rfl
      · exact hfirst ▸ rfl
    · exact ih _ e hrest

/-- The entries of a whole run. -/
def runEntries (now : Nat) (iterations : List Iteration) : List Accounts.Entry :=
  w.entries net (actions w.scanner now iterations)

/-- Whatever the accounts are, a run does the same and makes the same entries. -/
theorem run_on (now : Nat) (iterations : List Iteration) (a : Accounts) :
    (w.on a).run net now iterations =
      ((w.run net now iterations).1.on (a.postAll (w.runEntries net now iterations)),
        (w.run net now iterations).2) := by
  rw [run_eq_performAll, run_eq_performAll]
  exact Prod.ext (performAll_on net w _ a) rfl

/-- However a run ends, nothing is left that was counted and not published. -/
theorem pending_run (now : Nat) (iterations : List Iteration) :
    (w.run net now iterations).1.pending = {} := by
  rw [run_eq_performAll]
  unfold actions
  rw [performAll_append]
  rfl

/-- The last entry of a run publishes what is pending, on all accounts. -/
theorem pending_postAll_runEntries (now : Nat) (iterations : List Iteration) (a : Accounts) :
    (a.postAll (w.runEntries net now iterations)).pending = {} := by
  have hrun := pending_run net (w.on a) now iterations
  rw [run_on] at hrun
  exact hrun

end Downlink

namespace Uplink

/-! ## What the uplink worker enters -/

/-- The worker with these accounts instead of its own. -/
def on (w : Uplink) (a : Accounts) : Uplink := { w with state := w.state.on a }

/-- What came of a run, with these accounts instead of the worker's own. -/
def Ran.on (r : Ran) (a : Accounts) : Ran := { r with worker := r.worker.on a }

/-- What the worker counts while it does something. -/
def counted (w : Uplink) (action : Action) : UplinkCounters :=
  ((w.on {}).perform action).worker.state.uplink

/-- The entries that go with an action in which these events are counted. -/
def Action.entries (events : UplinkCounters) : Action → List Accounts.Entry
  | .treat .. => [.countUplink events]
  | _ => []

variable (w : Uplink)

/-- Whatever the accounts are, passing on does the same and counts the same. -/
theorem forward_on (datagram : Bytes) (reply : LineReply) :
    ∃ events, ∀ a, (w.on a).forward datagram reply =
      { w.forward datagram reply with
        worker := (w.forward datagram reply).worker.on (a.post (.countUplink events)) } := by
  cases hwait : w.backpressure.wait datagram.length reply.polls with
  | mk wait readings =>
    cases wait with
    -- The datagram is not written, and nothing is counted.
    | pending | failed | stalled =>
      refine ⟨0, fun a => ?_⟩
      simp only [forward, on, hwait]
      rfl
    | ready waited =>
      cases hfailure : reply.writeFailure with
      | some reason =>
        refine ⟨0, fun a => ?_⟩
        simp only [forward, on, hwait, hfailure]
        rfl
      | none =>
        refine
          ⟨{ datagrams := 1, bytes := datagram.length, serialWaits := if waited then 1 else 0 },
            fun a => ?_⟩
        simp only [forward, on, hwait, hfailure]
        rfl

/-- Whatever the accounts are, treating a datagram does the same and counts the same. -/
theorem handle_on (datagram : Bytes) (sender : SocketAddress) (now : Nat) (reply : LineReply) :
    ∃ events, ∀ a, (w.on a).handle datagram sender now reply =
      { w.handle datagram sender now reply with
        worker :=
          (w.handle datagram sender now reply).worker.on (a.post (.countUplink events)) } := by
  cases hinspect : Frame.inspect datagram with
  | error e =>
    refine ⟨malformedCount e, fun a => ?_⟩
    rw [handle_of_malformed hinspect, handle_of_malformed hinspect]
    rfl
  | ok header =>
    cases hblocks : w.blocks header datagram with
    | true =>
      refine ⟨{ armBlocked := 1 }, fun a => ?_⟩
      rw [handle_of_blocked hinspect hblocks, handle_of_blocked (w := w.on a) hinspect hblocks]
      rfl
    | false =>
      -- The sender is learned before anything is counted, on whatever account.
      obtain ⟨events, hevents⟩ := (w.learn sender header now).forward_on datagram reply
      refine ⟨events, fun a => ?_⟩
      have hlearn : (w.on a).learn sender header now = (w.learn sender header now).on a := rfl
      rw [handle_of_passed hinspect hblocks, handle_of_passed (w := w.on a) hinspect hblocks,
        hlearn, hevents]
      rfl

/-- Whatever the accounts are, an action does the same and makes the same entries. -/
theorem perform_on (action : Action) (a : Accounts) :
    (w.on a).perform action =
      (w.perform action).on (a.postAll (action.entries (w.counted action))) := by
  cases action with
  | readGate | purge => rfl
  | purgeIfDue now =>
    -- Whether a purge is due is told by the worker's own clock, not by the accounts.
    have hpurge : (w.on a).purgeIfDue now = (w.purgeIfDue now).on a :=
      (apply_ite (fun v : Uplink => v.on a) (w.purgeInterval ≤ Duration.between w.lastPurge now)
        (w.purge now) w).symm
    exact congrArg (fun worker =>
      ({ ending := .stopped, worker, notices := w.purgeIfDueNotices now } : Ran)) hpurge
  | treat datagram sender now reply =>
    obtain ⟨events, hevents⟩ := w.handle_on datagram sender now reply
    have hperform (b : Accounts) : (w.on b).perform (.treat datagram sender now reply) =
        (w.perform (.treat datagram sender now reply)).on (b.post (.countUplink events)) :=
      congrArg (fun handled : Handled =>
        ({ ending := handled.outcome.ending?.getD .stopped, worker := handled.worker
           serial := handled.serial, notices := handled.notices } : Ran)) (hevents b)
    have hcounted : w.counted (.treat datagram sender now reply) = events := by
      unfold counted
      rw [hperform]
      exact zero_add events
    rw [hcounted]
    exact hperform a

/-- The entries that go with some actions, until one makes the worker stop. -/
def entries (w : Uplink) : List Action → List Accounts.Entry
  | [] => []
  | action :: rest =>
    action.entries (w.counted action) ++
      if (w.perform action).ending = .stopped then (w.perform action).worker.entries rest else []

/-- Whatever the accounts are, a sequence of actions does the same and makes the same entries, up to
an action that makes the worker stop. -/
theorem follow_on (actions : List Action) (a : Accounts) :
    (w.on a).follow perform actions =
      (w.follow perform actions).on (a.postAll (w.entries actions)) := by
  induction actions generalizing w a with
  | nil => rfl
  | cons action rest ih =>
    rw [follow_cons, follow_cons, perform_on, entries, Accounts.postAll_append]
    by_cases hending : (w.perform action).ending = .stopped
    · rw [Ran.andThen_of_stopped hending, if_pos hending, Ran.andThen_of_stopped (by exact hending)]
      exact congrArg (fun others : Ran => { others with
        iterations := (w.perform action).iterations + others.iterations
        serial := (w.perform action).serial ++ others.serial
        notices := (w.perform action).notices ++ others.notices }) (ih (w.perform action).worker _)
    · rw [Ran.andThen_of_ended hending, if_neg hending, Ran.andThen_of_ended (by exact hending)]
      rfl

/-- All of the entries are the uplink worker's. -/
theorem isUplink_of_mem_entries (actions : List Action) :
    ∀ e ∈ w.entries actions, e.isUplink = true := by
  induction actions generalizing w with
  | nil => exact fun e he => absurd he List.not_mem_nil
  | cons action rest ih =>
    intro e he
    rcases List.mem_append.1 he with hfirst | hrest
    · unfold Action.entries at hfirst
      split at hfirst
      · exact List.mem_singleton.1 hfirst ▸ rfl
      · exact absurd hfirst List.not_mem_nil
    · split at hrest
      · exact ih _ e hrest
      · exact absurd hrest List.not_mem_nil

/-- The entries of a whole run. -/
def runEntries (iterations : List Iteration) : List Accounts.Entry :=
  w.entries (iterations.flatMap Iteration.actions)

/-- Whatever the accounts are, a run does the same and makes the same entries. -/
theorem run_on (iterations : List Iteration) (a : Accounts) :
    ((w.on a).run iterations).uncounted =
      (w.run iterations).uncounted.on (a.postAll (w.runEntries iterations)) := by
  rw [run_uncounted, run_uncounted, follow_on]
  rfl

end Uplink

namespace Reporting

/-- **Statistics neither lose nor double-count.** Whatever entries the workers make and wherever the
reporter is with its report, what the complete reports tell, what the unfinished one holds, what is
in the shared counters and, for the way from the vehicle, what is pending add up to all that was
counted; and the gaps of a source are those that were reported and those that are to be.

A run of either worker makes the same entries whatever the others do meanwhile. When a run of the
downlink worker is over, nothing is pending, whichever way it ended and whatever came in between its
entries. -/
theorem statistics_conserved (directory : Directory) (reporter : Reporter) (steps : List Step) :
    let r := ({ directory, reporter } : Reporting).after steps
    ((r.reports.map Report.uplink).sum + r.draft.uplink + r.accounts.uplink =
        ((entries steps).map Accounts.Entry.uplink).sum ∧
      (r.reports.map Report.downlink).sum + r.draft.downlink + r.accounts.downlink
          + r.accounts.pending =
        ((entries steps).map Accounts.Entry.downlink).sum ∧
      ∀ source, ((r.reports.map Report.gaps ++ [r.draft.gaps]).map (Streams.reportedOf source)).sum
          + r.accounts.streams.unreportedOf source =
        r.accounts.streams.gapsOf source) ∧
    (∀ (w : Uplink) (iterations : List Uplink.Iteration),
      (∀ e ∈ w.runEntries iterations, e.isUplink = true) ∧
      ∀ a, ((w.on a).run iterations).uncounted =
        (w.run iterations).uncounted.on (a.postAll (w.runEntries iterations))) ∧
    ∀ (net : Network) (w : Downlink) (now : Nat) (iterations : List Downlink.Iteration),
      (∀ e ∈ w.runEntries net now iterations, e.isUplink = false) ∧
      (∀ a, (w.on a).run net now iterations =
        ((w.run net now iterations).1.on (a.postAll (w.runEntries net now iterations)),
          (w.run net now iterations).2)) ∧
      (w.run net now iterations).1.pending = {} ∧
      ((entries steps).filter (fun e => !e.isUplink) = w.runEntries net now iterations →
        r.accounts.pending = {}) := by
  intro r
  -- Nothing was counted at first, so that the totals are what the entries add up to.
  refine ⟨⟨?_, ?_, fun source => gaps_after _ steps source rfl⟩,
    fun w iterations => ⟨w.isUplink_of_mem_entries _, w.run_on iterations⟩,
    fun net w now iterations => ⟨w.isUplink_of_mem_entries net _, w.run_on net now iterations,
      w.pending_run net now iterations, fun hentries => ?_⟩⟩
  · exact (uplinkTotal_after _ steps).trans (zero_add _)
  · exact (downlinkTotal_after _ steps).trans (zero_add _)
  · show (Reporting.after _ steps).accounts.pending = _
    rw [pending_after, hentries]
    exact w.pending_postAll_runEntries net now iterations _

end Reporting

end VehicleLink
