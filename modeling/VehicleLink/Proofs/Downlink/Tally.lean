import VehicleLink.Proofs.Downlink.FanOut
import VehicleLink.Proofs.Frame.Accounting
import VehicleLink.Proofs.Report.Conservation

/-!
# What the counters of the downlink worker mean

Ten counters are raised in many places. What each place raises is determined by what comes in, by
what is handed to the socket, or by the scanner; so all that is ever counted is one sum over
arrivals, sends and pieces (`Tally`), and each counter can be read off it. The noise is counted as a
difference, which is why the tally says how much of it was counted; that it is never negative is an
invariant of its own (`reported_le_performAll`).
-/

namespace VehicleLink.Downlink

/-! ## What comes in until the loop ends -/

/-- The frame from the serial line, if it is one. -/
def Arrival.serial? : Arrival → Option Frame
  | frame f _ => some f
  | injected _ _ => none

/-- The iterations before the one that ends the loop, if one does. -/
def completed (iterations : List Iteration) : List Iteration :=
  iterations.takeWhile fun i => i.read.failure?.isNone

/-- The bytes from the serial line. -/
def Iteration.piece (i : Iteration) : Bytes := (i.read.piece?.map Prod.fst).getD []

/-- The bytes from the serial line until the loop ends. -/
def bytesRead (iterations : List Iteration) : Bytes :=
  (completed iterations).flatMap Iteration.piece

/-- The frames that they are cut into. -/
def serialFrames (s : Scanner) (iterations : List Iteration) : List Frame :=
  (arrivals s iterations).filterMap Arrival.serial?

theorem completed_of_failure {i : Iteration} {error : RelayError}
    (h : i.read.failure? = some error) (rest : List Iteration) : completed (i :: rest) = [] := by
  simp [completed, h]

theorem completed_of_success {i : Iteration} (h : i.read.failure? = none) (rest : List Iteration) :
    completed (i :: rest) = i :: completed rest := by
  simp [completed, h]

/-- A read that ends the loop brings nothing. -/
theorem SerialRead.piece?_of_failure {read : SerialRead} {error : RelayError}
    (h : read.failure? = some error) : read.piece? = none := by
  cases read with
  | received piece micros =>
    cases piece with
    | nil => rfl
    | cons => cases h
  | notReady | failed => rfl

theorem filterMap_serial?_injections (injections : List Injection) :
    (injections.filterMap Injection.arrival?).filterMap Arrival.serial? = [] := by
  rw [List.filterMap_filterMap]
  refine List.filterMap_eq_nil_iff.2 fun injection _ => ?_
  cases harrival : injection.arrival? with
  | none => rfl
  | some a =>
    rw [Injection.eq_of_arrival? harrival]
    rfl

theorem filterMap_serial?_frames (frames : List Frame) (micros : UInt64) :
    (frames.map (Arrival.frame · micros)).filterMap Arrival.serial? = frames := by
  rw [List.filterMap_map]
  exact List.filterMap_some

/-- The frames of the first iteration come first, and no others if it ends the loop. -/
theorem serialFrames_cons (s : Scanner) (i : Iteration) (rest : List Iteration) :
    serialFrames s (i :: rest) =
      (i.read.arrivals s).filterMap Arrival.serial? ++
        if i.read.failure?.isNone then serialFrames (i.read.scanner s) rest else [] := by
  rw [serialFrames, arrivals, Iteration.arrivals, List.filterMap_append, List.filterMap_append]
  cases i.read.failure? with
  | some error =>
    rw [List.filterMap_nil, List.append_nil]
    rfl
  | none =>
    rw [filterMap_serial?_injections, List.append_nil]
    rfl

/-- The books of the stream stay in order while the frames of a piece are cut off. -/
theorem accounted_read {s : Scanner} {stream : Bytes} {frames : List Frame}
    (h : s.Accounted stream frames) (i : Iteration) :
    (i.read.scanner s).Accounted (stream ++ i.piece)
      (frames ++ (i.read.arrivals s).filterMap Arrival.serial?) := by
  unfold Iteration.piece SerialRead.scanner SerialRead.arrivals
  cases i.read.piece? with
  | none =>
    rw [Option.map_none, Option.getD_none, List.append_nil, List.filterMap_nil, List.append_nil]
    exact h
  | some piece =>
    show (s.push piece.1).drain.2.Accounted (stream ++ piece.1) _
    rw [filterMap_serial?_frames]
    exact (h.push piece.1).drain

/-- The books of the stream stay in order over all iterations until the loop ends. -/
theorem accounted_loop {s : Scanner} {stream : Bytes} {frames : List Frame}
    (h : s.Accounted stream frames) (iterations : List Iteration) :
    (scannerAfter s (completed iterations)).Accounted (stream ++ bytesRead iterations)
      (frames ++ serialFrames s iterations) := by
  -- On the iterations, with the books of all that was read before.
  induction iterations generalizing s stream frames with
  | nil =>
    show s.Accounted (stream ++ []) (frames ++ [])
    rwa [List.append_nil, List.append_nil]
  | cons i rest ih =>
    have hread := accounted_read h i
    rw [serialFrames_cons, bytesRead]
    cases hfailure : i.read.failure? with
    | some error =>
      have hnone : (i.read.arrivals s).filterMap Arrival.serial? = [] := by
        rw [SerialRead.arrivals, SerialRead.piece?_of_failure hfailure]
        rfl
      rw [completed_of_failure hfailure, hnone]
      show s.Accounted (stream ++ []) (frames ++ [])
      rwa [List.append_nil, List.append_nil]
    | none =>
      have hrest := ih hread
      rw [List.append_assoc, List.append_assoc] at hrest
      rw [completed_of_success hfailure, List.flatMap_cons]
      exact hrest

/-- Of what was injected, the datagrams that are not empty arrive. -/
theorem countP_injected (s : Scanner) (iterations : List Iteration) :
    (arrivals s iterations).countP (fun a => a.serial?.isNone) =
      ((completed iterations).flatMap Iteration.injections).countP fun n => n.bytes ≠ [] := by
  have hserial (i : Iteration) (s : Scanner) :
      (i.read.arrivals s).countP (fun a => a.serial?.isNone) = 0 := by
    rw [List.countP_eq_zero]
    intro a ha
    -- Nothing that is read from the line was injected.
    unfold SerialRead.arrivals at ha
    split at ha
    · exact absurd ha List.not_mem_nil
    · obtain ⟨f, -, rfl⟩ := List.mem_map.1 ha
      exact Bool.false_ne_true
  have hinjected (injections : List Injection) :
      (injections.filterMap Injection.arrival?).countP (fun a => a.serial?.isNone) =
        injections.countP fun n => n.bytes ≠ [] := by
    rw [List.countP_filterMap]
    congr 1
    funext n
    -- An empty datagram is left out on both sides, and any other arrives.
    by_cases hempty : n.bytes = []
    · simp [Injection.arrival?, hempty]
    · rw [Injection.arrival?_of_ne_nil hempty]
      simp [Arrival.serial?, hempty]
  induction iterations generalizing s with
  | nil => rfl
  | cons i rest ih =>
    unfold arrivals Iteration.arrivals
    cases hfailure : i.read.failure? with
    | some error =>
      rw [completed_of_failure hfailure, List.append_nil, List.append_nil, hserial]
      rfl
    | none =>
      simp only [completed_of_success hfailure, List.flatMap_cons, List.countP_append, hserial,
        hinjected, ih, Nat.zero_add]

/-! ## The noise -/

variable {net : Network} {w : Downlink}

/-- Draining drops noise and takes none back. -/
theorem discarded_le_drain (s : Scanner) : s.discarded ≤ s.drain.2.discarded := by
  -- Along the frames that draining cuts off; each step drops what stands before the next frame.
  induction s using Scanner.drain.induct with
  | case1 s t hnext =>
    obtain ⟨-, rfl⟩ := Scanner.next_eq_none_iff.1 hnext
    rw [Scanner.drain_of_next_none hnext]
    exact Nat.le_add_right _ _
  | case2 s frame t hnext ih =>
    obtain ⟨rest, -, rfl⟩ := Scanner.next_eq_some_iff.1 hnext
    rw [Scanner.drain_of_next_some hnext]
    exact Nat.le_trans (Nat.le_add_right _ _) ih

/-- No more noise was counted than there was. -/
theorem reported_le_perform (h : w.reportedDiscarded ≤ w.scanner.discarded) (action : Action) :
    (w.perform net action).reportedDiscarded ≤ (w.perform net action).scanner.discarded := by
  have hsame {v : Downlink} (hv : v.settings = w.settings) :
      v.settings.reportedDiscarded ≤ v.settings.scanner.discarded := by
    rw [hv]
    exact h
  cases action with
  | begin | readGate | addBlocked | reportInjection | publish | finish => exact h
  | countNoise => exact Nat.le_refl _
  -- Scanning may drop more noise, which is counted right after.
  | scan piece => exact Nat.le_trans h (discarded_le_drain (w.scanner.push piece))
  | treat a => exact hsame (settings_treat net w a)
  | flush => exact hsame (settings_flush net w)
  | meetDeadline now =>
    obtain ⟨nextFlush, hmet⟩ := settings_meetDeadline net w now
    show (w.meetDeadline net now).settings.reportedDiscarded ≤
      (w.meetDeadline net now).settings.scanner.discarded
    rw [hmet]
    exact h

/-- At no moment was more noise counted than there was. -/
theorem reported_le_performAll (h : w.reportedDiscarded ≤ w.scanner.discarded)
    (actions : List Action) :
    (w.performAll net actions).reportedDiscarded ≤
      (w.performAll net actions).scanner.discarded := by
  induction actions generalizing w with
  | nil => exact h
  | cons action rest ih => exact ih (reported_le_perform h action)

/-- At the end of an iteration all noise was counted. -/
theorem noise_loop (net : Network) (h : w.reportedDiscarded = w.scanner.discarded)
    (iterations : List Iteration) :
    (w.performAll net (loopActions w.scanner iterations)).scanner =
        scannerAfter w.scanner (completed iterations) ∧
      (w.performAll net (loopActions w.scanner iterations)).reportedDiscarded =
        (scannerAfter w.scanner (completed iterations)).discarded := by
  induction iterations generalizing w with
  | nil => exact ⟨rfl, h⟩
  | cons i rest ih =>
    obtain ⟨_, _, hsettings⟩ := settings_performAll_iteration net w i
    have hscanner := scanner_iterate net w i
    -- Either nothing was read and the number is the old one, or it was counted after draining.
    have hreported : (w.performAll net (i.actions w.scanner)).reportedDiscarded =
        (i.read.scanner w.scanner).discarded := by
      refine (congrArg Settings.reportedDiscarded hsettings).trans ?_
      unfold SerialRead.scanner
      cases i.read.piece? with
      | none => exact h
      | some piece => rfl
    unfold loopActions
    rw [performAll_append]
    cases hfailure : i.read.failure? with
    | some error =>
      -- Nothing was read, so that the scanner is as it was.
      have hnone : i.read.scanner w.scanner = w.scanner := by
        rw [SerialRead.scanner, SerialRead.piece?_of_failure hfailure]
      rw [completed_of_failure hfailure]
      exact ⟨hscanner.trans hnone, hreported.trans (congrArg Scanner.discarded hnone)⟩
    | none =>
      have hrest := ih (hreported.trans (congrArg Scanner.discarded hscanner.symm))
      rw [hscanner] at hrest
      rw [completed_of_success hfailure]
      exact hrest

/-! ## What is counted for what -/

/-- What is counted for a datagram that was handed to the socket. -/
def sendEvents (primary : SocketAddress) (s : SendAttempt) : DownlinkCounters :=
  match s.delivery with
  | .failed _ _ => { sendFailures := 1 }
  | .delivered =>
    if s.target = primary then { aggregatesSent := 1, aggregateBytes := s.bytes.length }
    else { fanoutDatagrams := 1 }

/-- What is counted for an action, but for noise and what is sent. -/
def Action.events (bulkIds : List UInt32) : Action → DownlinkCounters
  | .scan piece => { serialBytes := piece.length }
  | .treat a => a.events bulkIds
  | _ => 0

/-- All that was counted, whether or not it is public. -/
def totals (w : Downlink) : DownlinkCounters := w.state.downlink + w.pending

theorem totals_count (w : Downlink) (events : DownlinkCounters) :
    (w.count events).totals = w.totals + events :=
  (add_assoc w.state.downlink w.pending events).symm

/-- Sending adds what the attempt is worth, taken or not. -/
theorem totals_send {primary target : SocketAddress} {bytes : Bytes} {credit : DownlinkCounters}
    (hcredit : sendEvents primary ⟨target, bytes, .delivered⟩ = credit) (net : Network)
    (w : Downlink) :
    (w.send net target bytes credit).totals =
      w.totals + sendEvents primary ⟨target, bytes, net.delivery w.sent.size target⟩ := by
  unfold send
  cases net.delivery w.sent.size target with
  | delivered =>
    rw [hcredit]
    exact totals_count _ credit
  | failed reason now => exact (add_assoc w.state.downlink w.pending { sendFailures := 1 }).symm

/-! ## The tally -/

/-- All that was counted is the input, and what was counted for the datagrams. -/
structure Tally (primary : SocketAddress) (input : DownlinkCounters) (w : Downlink) : Prop where
  primary_eq : w.state.primary = primary
  apart : w.state.directory.registry.Apart
  totals_eq : w.totals = input + (w.sent.toList.map (sendEvents primary)).sum

variable {primary : SocketAddress} {input : DownlinkCounters} {bulkIds : List UInt32}

/-- What is counted for the input is added to the input. -/
theorem Tally.count (h : Tally primary input w) (events : DownlinkCounters) :
    Tally primary (input + events) (w.count events) := by
  refine ⟨h.primary_eq, h.apart, ?_⟩
  rw [totals_count, h.totals_eq]
  exact add_right_comm ..

/-- What is counted for a datagram stands behind it in the list of attempts. -/
theorem Tally.send (h : Tally primary input w) {target : SocketAddress} {bytes : Bytes}
    {credit : DownlinkCounters}
    (hcredit : sendEvents primary ⟨target, bytes, .delivered⟩ = credit) :
    Tally primary input (w.send net target bytes credit) := by
  -- Of the two parts of the state, sending changes the counters only.
  have hcourse := course_send net w target bytes credit
  have hdirectory : (w.send net target bytes credit).state.directory = w.state.directory :=
    congrArg Course.directory hcourse
  have hsent : (w.send net target bytes credit).sent = _ :=
    congrArg Books.sent (books_send net w target bytes credit)
  refine ⟨?_, hdirectory ▸ h.apart, ?_⟩
  · show (w.send net target bytes credit).state.directory.registry.primary = primary
    rw [hdirectory]
    exact h.primary_eq
  · rw [totals_send hcredit, h.totals_eq, hsent, Array.toList_push, List.map_append,
      List.sum_append, List.map_singleton, List.sum_singleton, add_assoc]

/-- A batch is one attempt for the primary controller, if there is one. -/
theorem Tally.flush (h : Tally primary input w) : Tally primary input (w.flush net) := by
  unfold Downlink.flush
  split
  · exact h
  · rename_i datagram aggregate _
    have htaken : Tally primary input { w with aggregate, batch := w.batch + 1 } :=
      ⟨h.primary_eq, h.apart, h.totals_eq⟩
    -- The credit of a batch is what an attempt for the primary controller is worth.
    exact htaken.send (h.primary_eq ▸ if_pos rfl)

theorem Tally.aggregateFrame (h : Tally primary input w) (bytes : Bytes) (micros : UInt64) :
    Tally primary input (w.aggregateFrame net bytes micros) :=
  aggregateFrame_keeps net (P := Tally primary input)
    (fun _ _ hv => ⟨hv.primary_eq, hv.apart, hv.totals_eq⟩) (fun _ hv => hv.flush) h bytes micros

/-- Each recipient is one attempt for somebody else than the primary controller. -/
theorem Tally.fanOut (h : Tally primary input w) (bytes : Bytes) (targets : Option Targets) :
    Tally primary input (w.fanOut net bytes targets) := by
  have hprimary : w.state.directory.registry.primary = primary := h.primary_eq
  have hclients : primary ∉
      (w.state.directory.after (net.meanwhile w.messages)).recipients targets :=
    hprimary ▸ Directory.primary_notMem_recipients_after h.apart _ targets
  refine List.foldlRecOn (motive := Tally primary input) _ _ ?_ fun v hv client hclient => ?_
  · exact ⟨(Directory.primary_after _ _).trans hprimary, Directory.apart_after h.apart _,
      h.totals_eq⟩
  -- A client is not the primary controller, so that the attempt is worth one datagram.
  · exact hv.send (if_neg (ne_of_mem_of_not_mem hclient hclients))

/-- An arrival counts as input, and all that is sent for it as attempts. -/
theorem Tally.treat (h : Tally primary input w) (a : Arrival) :
    Tally primary (input + a.events w.bulkIds) (w.treat net a) := by
  have hnoted : Tally primary (input + a.events w.bulkIds) (w.noted a) := by
    obtain ⟨clock, notices, streams, hnoted⟩ := noted_eq w a
    have hcounted := h.count (a.events w.bulkIds)
    rw [hnoted]
    exact ⟨hcounted.primary_eq, hcounted.apart, hcounted.totals_eq⟩
  rw [treat_eq]
  refine Tally.fanOut ?_ a.bytes a.targets
  split
  · exact hnoted
  · exact hnoted.aggregateFrame a.bytes a.micros

theorem Tally.meetDeadline (h : Tally primary input w) (now : Nat) :
    Tally primary input (w.meetDeadline net now) := by
  have hflushed : Tally primary input (w.flush net) := h.flush
  unfold Downlink.meetDeadline
  split
  · exact ⟨hflushed.primary_eq, hflushed.apart, hflushed.totals_eq⟩
  · exact h

/-- Each action keeps the tally. Noise is counted at once for all that was dropped since it was last
counted. -/
theorem Tally.perform (h : Tally primary (input + { discardedBytes := w.reportedDiscarded }) w)
    (hle : w.reportedDiscarded ≤ w.scanner.discarded) (hbulkIds : w.bulkIds = bulkIds)
    (action : Action) :
    Tally primary (input + action.events bulkIds +
        { discardedBytes := (w.perform net action).reportedDiscarded }) (w.perform net action) := by
  have hnothing {v : Downlink} (hreported : v.settings.reportedDiscarded = w.reportedDiscarded)
      (hv : Tally primary (input + { discardedBytes := w.reportedDiscarded }) v) :
      Tally primary (input + 0 + { discardedBytes := v.reportedDiscarded }) v := by
    have hsame : v.reportedDiscarded = w.reportedDiscarded := hreported
    rwa [hsame, add_zero]
  cases action with
  | begin | readGate | addBlocked | reportInjection | finish =>
    exact hnothing rfl ⟨h.primary_eq, h.apart, h.totals_eq⟩
  | publish => exact hnothing rfl ⟨h.primary_eq, h.apart, h.totals_eq⟩
  | flush => exact hnothing (congrArg Settings.reportedDiscarded (settings_flush net w)) h.flush
  | meetDeadline now =>
    obtain ⟨nextFlush, hmet⟩ := settings_meetDeadline net w now
    exact hnothing (congrArg Settings.reportedDiscarded hmet) (h.meetDeadline now)
  | scan piece =>
    rw [add_right_comm]
    have hcounted := h.count { serialBytes := piece.length }
    exact ⟨hcounted.primary_eq, hcounted.apart, hcounted.totals_eq⟩
  | treat a =>
    have hreported : (w.treat net a).reportedDiscarded = w.reportedDiscarded :=
      congrArg Settings.reportedDiscarded (settings_treat net w a)
    show Tally primary
      (input + a.events bulkIds + { discardedBytes := (w.treat net a).reportedDiscarded })
      (w.treat net a)
    -- The noise stays what it was, and the arrival goes to the rest of the input.
    rw [hreported, add_right_comm, ← hbulkIds]
    exact h.treat a
  | countNoise =>
    -- What is counted now and what was counted before are all that was dropped.
    have hcounted := h.count { discardedBytes := w.scanner.discarded - w.reportedDiscarded }
    have hsum : ({ discardedBytes := w.reportedDiscarded } : DownlinkCounters) +
        { discardedBytes := w.scanner.discarded - w.reportedDiscarded } =
          { discardedBytes := w.scanner.discarded } :=
      congrArg (fun n => ({ discardedBytes := n } : DownlinkCounters)) (Nat.add_sub_of_le hle)
    rw [add_assoc, hsum] at hcounted
    show Tally primary (input + 0 + { discardedBytes := w.scanner.discarded }) w.countNoise
    rw [add_zero]
    exact ⟨hcounted.primary_eq, hcounted.apart, hcounted.totals_eq⟩

theorem bulkIds_perform (net : Network) (w : Downlink) (action : Action) :
    (w.perform net action).bulkIds = w.bulkIds := by
  cases action with
  | begin | readGate | addBlocked | scan | countNoise | reportInjection | publish | finish => rfl
  | flush => exact congrArg Settings.bulkIds (settings_flush net w)
  | treat a => exact congrArg Settings.bulkIds (settings_treat net w a)
  | meetDeadline now =>
    obtain ⟨nextFlush, hmet⟩ := settings_meetDeadline net w now
    exact congrArg Settings.bulkIds hmet

/-- Actions in a row keep the tally, and what they count for the input is added up. -/
theorem Tally.performAll
    (h : Tally primary (input + { discardedBytes := w.reportedDiscarded }) w)
    (hle : w.reportedDiscarded ≤ w.scanner.discarded) (hbulkIds : w.bulkIds = bulkIds)
    (actions : List Action) :
    Tally primary (input + (actions.map (Action.events bulkIds)).sum +
        { discardedBytes := (w.performAll net actions).reportedDiscarded })
      (w.performAll net actions) := by
  induction actions generalizing w input with
  | nil =>
    rw [List.map_nil, List.sum_nil, add_zero]
    exact h
  | cons action rest ih =>
    rw [List.map_cons, List.sum_cons, ← add_assoc]
    exact ih (h.perform hle hbulkIds action) (reported_le_perform hle action)
      ((bulkIds_perform net w action).trans hbulkIds)

/-! ## The sums -/

theorem sum_events_map_treat (arrivals : List Arrival) :
    ((arrivals.map Action.treat).map (Action.events bulkIds)).sum =
      (arrivals.map (Arrival.events bulkIds)).sum := by
  rw [List.map_map]
  rfl

/-- An iteration counts what arrives in it and what is read. -/
theorem sum_events_actions (s : Scanner) (i : Iteration) :
    ((i.actions s).map (Action.events bulkIds)).sum =
      ((i.arrivals s).map (Arrival.events bulkIds)).sum + { serialBytes := i.piece.length } := by
  have hopening : (i.opening.map (Action.events bulkIds)).sum = 0 := by
    unfold Iteration.opening
    cases i.wakeup <;> rfl
  -- Scanning counts the bytes, and each frame that is treated counts itself.
  have hread : ((i.read.actions s).map (Action.events bulkIds)).sum =
      ((i.read.arrivals s).map (Arrival.events bulkIds)).sum +
        { serialBytes := i.piece.length } := by
    unfold SerialRead.actions SerialRead.arrivals Iteration.piece
    cases i.read.piece? with
    | none => rfl
    | some piece =>
      simp only [List.cons_append, List.map_cons, List.map_append, List.sum_cons, List.sum_append,
        sum_events_map_treat, Action.events, List.map_nil, List.sum_nil, add_zero]
      exact add_comm ..
  have hclosing : (i.closing.map (Action.events bulkIds)).sum =
      ((i.injections.filterMap Injection.arrival?).map (Arrival.events bulkIds)).sum := by
    unfold Iteration.closing Iteration.injections
    cases i.wakeup with
    | failed reason => rfl
    | ready blockedMicros serial injected failure =>
      simp only [List.map_append, List.sum_append, sum_events_map_treat, List.map_cons,
        Action.events, List.map_nil, List.sum_cons, List.sum_nil, add_zero]
  unfold Iteration.actions Iteration.arrivals
  simp only [List.map_append, List.sum_append, hopening, hread, zero_add]
  cases i.read.failure? with
  | some error => simp only [List.map_nil, List.sum_nil, add_zero]
  | none =>
    rw [hclosing]
    exact add_right_comm ..

/-- The actions of a loop count what arrives and what is read. -/
theorem sum_events_loopActions (s : Scanner) (iterations : List Iteration) :
    ((loopActions s iterations).map (Action.events bulkIds)).sum =
      ((arrivals s iterations).map (Arrival.events bulkIds)).sum +
        { serialBytes := (bytesRead iterations).length } := by
  induction iterations generalizing s with
  | nil => rfl
  | cons i rest ih =>
    unfold loopActions arrivals bytesRead
    rw [List.map_append, List.sum_append, sum_events_actions, List.map_append, List.sum_append]
    cases hfailure : i.read.failure? with
    | some error =>
      have hnone : i.piece = [] := by
        rw [Iteration.piece, SerialRead.piece?_of_failure hfailure]
        rfl
      rw [completed_of_failure hfailure, hnone]
      simp only [List.map_nil, List.sum_nil, add_zero]
      rfl
    | none =>
      rw [completed_of_success hfailure, List.flatMap_cons, List.length_append, ih]
      exact add_add_add_comm ..

/-- What is counted for arrivals, counter by counter. -/
theorem sum_arrivalEvents (l : List Arrival) :
    (l.map (Arrival.events bulkIds)).sum =
      { frames := (l.filterMap Arrival.serial?).length
        checksumFailed := (l.filterMap Arrival.serial?).countP fun f => !f.checksumOk
        bulkFrames := (l.filterMap Arrival.serial?).countP fun f =>
          bulkIds.contains f.header.messageId
        injected := l.countP fun a => a.serial?.isNone } := by
  induction l with
  | nil => rfl
  | cons a rest ih =>
    rw [List.map_cons, List.sum_cons, ih, DownlinkCounters.add_eq]
    -- A frame is counted by its checksum and its kind, an injected datagram as one.
    cases a with
    | injected bytes micros =>
      have hskip : (.injected bytes micros :: rest).filterMap Arrival.serial? =
          rest.filterMap Arrival.serial? := rfl
      rw [hskip]
      simp [Arrival.events, Arrival.serial?, Nat.add_comm]
    | frame f micros =>
      cases hchecksum : f.checksumOk <;>
        simp [Arrival.events, Arrival.serial?, List.countP_cons, Nat.add_comm, hchecksum]

/-- What is counted for attempts to send, counter by counter. -/
theorem sum_sendEvents (primary : SocketAddress) (sent : Array SendAttempt) :
    (sent.toList.map (sendEvents primary)).sum =
      { aggregatesSent := (receivedBy primary sent).length
        aggregateBytes := (receivedBy primary sent).flatten.length
        fanoutDatagrams := sent.toList.countP fun s => s.target ≠ primary ∧ s.delivery = .delivered
        sendFailures := sent.toList.countP fun s => s.delivery ≠ .delivered } := by
  -- Attempt by attempt: failed, or taken for the primary controller, or taken for somebody else.
  unfold receivedBy
  induction sent.toList with
  | nil => rfl
  | cons s rest ih =>
    rw [List.map_cons, List.sum_cons, ih, DownlinkCounters.add_eq]
    obtain ⟨target, bytes, delivery⟩ := s
    cases delivery with
    | failed reason now => simp [sendEvents, Nat.add_comm]
    | delivered =>
      by_cases htarget : target = primary
      · simp [sendEvents, htarget, Nat.add_comm]
      · simp [sendEvents, htarget, Nat.add_comm]

/-- Each datagram is counted once: as taken for one of the two, or as a failure. -/
theorem attempts_eq (primary : SocketAddress) (sent : Array SendAttempt) :
    let events := (sent.toList.map (sendEvents primary)).sum
    events.aggregatesSent + events.fanoutDatagrams + events.sendFailures = sent.size := by
  have hone (s : SendAttempt) : (sendEvents primary s).aggregatesSent +
      (sendEvents primary s).fanoutDatagrams + (sendEvents primary s).sendFailures = 1 := by
    unfold sendEvents
    split
    · rfl
    · split <;> rfl
  rw [← Array.length_toList]
  induction sent.toList with
  | nil => rfl
  | cons s rest ih =>
    have hfirst := hone s
    rw [List.map_cons, List.sum_cons, List.length_cons, DownlinkCounters.add_eq]
    simp only at ih ⊢
    omega

/-! ## Batches -/

/-- The payload of an aggregate datagram. -/
def payloadOf (datagram : Bytes) : Bytes :=
  match Aggregate.decode datagram with
  | .ok (_, payload) => payload
  | .error _ => []

/-- What is sent to the primary controller is a header and a payload. -/
theorem length_of_mem_datagramsTo {limit : Nat} {arrived : List Bytes}
    (h : Ledger bulkIds primary limit arrived w.books) {datagram : Bytes}
    (hmem : datagram ∈ datagramsTo primary w.sent) :
    datagram.length = 26 + (payloadOf datagram).length := by
  obtain ⟨batches, -, -, hbatched⟩ := h.batched
  -- Each datagram carries the batch at its place, and so it can be read.
  obtain ⟨n, hn⟩ := List.mem_iff_getElem?.1 hmem
  have hbound : n < batches.length :=
    hbatched.length_eq ▸ (List.getElem?_eq_some_iff.1 hn).choose
  obtain ⟨header, hdecode, -⟩ :=
    (hbatched.carries (List.getElem?_eq_getElem hbound) hn).decode_eq
  have hparts := (Aggregate.decode_eq_ok_iff.1 hdecode).1
  rw [payloadOf, hdecode, hparts, List.length_append, header.length_encode]
  rfl

/-- The batches that were taken have one header each besides their payloads. -/
theorem length_receivedBy {limit : Nat} {arrived : List Bytes}
    (h : Ledger bulkIds primary limit arrived w.books) :
    (receivedBy primary w.sent).flatten.length =
      26 * (receivedBy primary w.sent).length +
        ((receivedBy primary w.sent).flatMap payloadOf).length := by
  have hall : ∀ datagram ∈ receivedBy primary w.sent,
      datagram.length = 26 + (payloadOf datagram).length := by
    intro datagram hmem
    refine length_of_mem_datagramsTo h ?_
    unfold receivedBy at hmem
    obtain ⟨s, hs, rfl⟩ := List.mem_map.1 hmem
    obtain ⟨hsent, htaken⟩ := List.mem_filter.1 hs
    exact List.mem_map_of_mem
      (List.mem_filter.2 ⟨hsent, decide_eq_true (of_decide_eq_true htaken).1⟩)
  -- From here on only the lengths matter.
  generalize receivedBy primary w.sent = received at hall ⊢
  induction received with
  | nil => rfl
  | cons datagram rest ih =>
    have hfirst := hall datagram List.mem_cons_self
    have hrest := ih fun other hother => hall other (List.mem_cons_of_mem datagram hother)
    rw [List.flatten_cons, List.length_append, List.flatMap_cons, List.length_append, hrest,
      List.length_cons, hfirst]
    omega

/-! ## Whole runs -/

/-- What was counted is what happened. -/
structure Truthful (bulkIds : List UInt32) (primary : SocketAddress) (iterations : List Iteration)
    (w : Downlink) (events : DownlinkCounters) : Prop where
  serialBytes_eq : events.serialBytes = (bytesRead iterations).length
  /-- All bytes that were read are noise, in a frame or pending. -/
  bytes_eq : events.serialBytes = events.discardedBytes +
    ((serialFrames {} iterations).flatMap Frame.bytes).length + w.scanner.pending.length
  frames_eq : events.frames = (serialFrames {} iterations).length
  bulkFrames_eq : events.bulkFrames =
    (serialFrames {} iterations).countP fun f => bulkIds.contains f.header.messageId
  checksumFailed_eq : events.checksumFailed =
    (serialFrames {} iterations).countP fun f => !f.checksumOk
  injected_eq : events.injected =
    ((completed iterations).flatMap Iteration.injections).countP fun n => n.bytes ≠ []
  attempts_eq : events.aggregatesSent + events.fanoutDatagrams + events.sendFailures = w.sent.size
  sendFailures_eq : events.sendFailures = w.sent.toList.countP fun s => s.delivery ≠ .delivered
  aggregatesSent_eq : events.aggregatesSent = (receivedBy primary w.sent).length
  /-- Each batch that was taken has a header besides its payload. -/
  aggregateBytes_eq : events.aggregateBytes =
    26 * events.aggregatesSent + ((receivedBy primary w.sent).flatMap payloadOf).length

/-- All that is ever counted are the entries of what was done. -/
theorem totals_performAll (net : Network) (w : Downlink) (actions : List Action) :
    (w.performAll net actions).totals =
      w.totals + ((w.entries net actions).map Accounts.Entry.downlink).sum := by
  have hon := performAll_on net w actions
    ⟨w.state.streams, w.state.uplink, w.state.downlink, w.pending⟩
  have hposted := Accounts.downlink_postAll
    ⟨w.state.streams, w.state.uplink, w.state.downlink, w.pending⟩ (w.entries net actions)
  exact (congrArg totals hon).trans hposted

/-- What a tally says about a worker that dealt with just these iterations and counted all noise:
each counter is the number of what it stands for. What others had counted before is left out on both
sides. -/
theorem Tally.truthful {before events : DownlinkCounters} {limit : Nat} {arrived : List Bytes}
    {iterations : List Iteration}
    (h : Tally primary (before + (((arrivals {} iterations).map (Arrival.events bulkIds)).sum +
      { serialBytes := (bytesRead iterations).length }) +
      { discardedBytes := w.reportedDiscarded }) w)
    (hledger : Ledger bulkIds primary limit arrived w.books)
    (hscanner : w.scanner = scannerAfter {} (completed iterations))
    (hreported : w.reportedDiscarded = w.scanner.discarded)
    (htotals : w.totals = before + events) : Truthful bulkIds primary iterations w events := by
  have hattempts := Downlink.attempts_eq primary w.sent
  have hbatches := length_receivedBy hledger
  have hbytes := (accounted_loop Scanner.accounted_start iterations).length_eq
  rw [List.nil_append, List.nil_append, ← hscanner] at hbytes
  -- Two ways to write the total. Without what there was before, they give the counters.
  have hevents := htotals.symm.trans h.totals_eq
  simp only [add_assoc] at hevents
  have hsum := DownlinkCounters.eq_of_add_eq_add hevents
  -- Field by field, most of the truth is then there by definition.
  simp only [sum_arrivalEvents, sum_sendEvents, DownlinkCounters.add_eq, Nat.zero_add,
    Nat.add_zero] at hsum hattempts
  subst hsum
  refine ⟨rfl, ?_, rfl, rfl, rfl, countP_injected {} iterations, hattempts, rfl, rfl, hbatches⟩
  show (bytesRead iterations).length = w.reportedDiscarded + _ + _
  rw [hreported]
  exact hbytes

/-- After an iteration that does not end the loop all that was counted is public. -/
theorem pending_loop (net : Network) (h : w.pending = {}) {iterations : List Iteration}
    (hcontinues : failure? iterations = none) :
    (w.performAll net (loopActions w.scanner iterations)).pending = {} := by
  induction iterations generalizing w with
  | nil => exact h
  | cons i rest ih =>
    obtain ⟨hfirst, hrest⟩ := Option.or_eq_none_iff.1 hcontinues
    -- Publishing is the last thing that is done in an iteration.
    have hpublished : (w.performAll net (i.actions w.scanner)).pending = {} := by
      unfold Iteration.actions
      rw [hfirst, performAll_append, performAll_append]
      cases hwakeup : i.wakeup with
      | failed reason =>
        rw [Iteration.read, hwakeup] at hfirst
        cases hfirst
      | ready blockedMicros serial injected failure =>
        show (performAll net _ i.closing).pending = {}
        rw [performAll_closing net _ i hwakeup]
        rfl
    have hnext := ih hpublished hrest
    rw [scanner_iterate] at hnext
    unfold loopActions
    rw [hfirst, performAll_append]
    exact hnext

/-- Whatever a worker does after its start: if it dealt with just these iterations and counted all
noise, what it counted is what happened. -/
theorem truthful_performAll (c : Config) {state : State} (hstate : state.directory.Reachable)
    (created : Nat) (net : Network) {iterations : List Iteration} {done : List Action}
    (hsum : (done.map (Action.events c.bulkTransferIds)).sum =
      ((arrivals {} iterations).map (Arrival.events c.bulkTransferIds)).sum +
        { serialBytes := (bytesRead iterations).length })
    (hscanner : ((start c state created).performAll net done).scanner =
      scannerAfter {} (completed iterations))
    (hreported : ((start c state created).performAll net done).reportedDiscarded =
      ((start c state created).performAll net done).scanner.discarded) :
    Truthful c.bulkTransferIds state.primary iterations
      ((start c state created).performAll net done)
      (((start c state created).entries net done).map Accounts.Entry.downlink).sum := by
  -- What others counted before the start goes into the tally as input.
  have hstart : Tally state.primary (state.downlink + { discardedBytes := 0 })
      (start c state created) := ⟨rfl, hstate.apart, rfl⟩
  have htally : Tally _ _ ((start c state created).performAll net done) :=
    hstart.performAll (Nat.le_refl 0) (show _ = c.bulkTransferIds from rfl) done
  rw [hsum] at htally
  exact htally.truthful ((ledger_start c hstate created).performAll done) hscanner hreported
    (totals_performAll net _ done)

/-- **The counters of the downlink worker tell the truth.** In every run, after any iterations and
also if the last of them ends the loop: all that was counted, which is what the entries in the
statistics add up to whatever the reporter took out of them meanwhile, is what happened. The bytes
that were read are noise, in frames or pending; frames, those of bulk data and those with a wrong
checksum are counted as often as they came in, and so are the datagrams for injection that are not
empty; every attempt to send is counted once, as taken for one of the two or as failed; and the
bytes of the batches that were taken are those of their headers and payloads. The same holds at the
end of the run. Between two iterations, and at the end, nothing is left that is not public. At no
moment was more noise counted than there was. -/
theorem counters_tell_the_truth (c : Config) (state : State) (hstate : state.directory.Reachable)
    (created : Nat) (net : Network) (started : Nat) (iterations : List Iteration) :
    let w := start c state created
    let events (done : List Action) := ((w.entries net done).map Accounts.Entry.downlink).sum
    let looped := ((w.perform net (.begin started)).loop net iterations).1
    let ran := (w.run net started iterations).1
    (looped.state.downlink + looped.pending =
        state.downlink + events (.begin started :: loopActions {} iterations) ∧
      Truthful c.bulkTransferIds state.primary iterations looped
        (events (.begin started :: loopActions {} iterations)) ∧
      (failure? iterations = none → looped.pending = {})) ∧
    (ran.state.downlink = state.downlink + events (actions {} started iterations) ∧
      Truthful c.bulkTransferIds state.primary iterations ran
        (events (actions {} started iterations))) ∧
    ∀ done, done <+: actions {} started iterations →
      (w.performAll net done).reportedDiscarded ≤ (w.performAll net done).scanner.discarded := by
  intro w events looped ran
  have hlooped : looped = w.performAll net (.begin started :: loopActions {} iterations) :=
    congrArg Prod.fst (loop_eq_performAll net (w.perform net (.begin started)) iterations)
  have hran : ran = w.performAll net (actions {} started iterations) :=
    congrArg Prod.fst (run_eq_performAll net w started iterations)
  obtain ⟨hscanner, hreported⟩ :=
    noise_loop net (w := w.perform net (.begin started)) rfl iterations
  -- Beginning and ending a run counts nothing but what the last flush sends.
  have hloopSum : ((Action.begin started :: loopActions {} iterations).map
      (Action.events c.bulkTransferIds)).sum = _ :=
    (zero_add _).trans (sum_events_loopActions {} iterations)
  have hrunSum : ((actions {} started iterations).map (Action.events c.bulkTransferIds)).sum =
      ((Action.begin started :: loopActions {} iterations).map
        (Action.events c.bulkTransferIds)).sum := by
    rw [actions, List.map_append, List.sum_append]
    exact add_zero _
  have hsettings : (w.performAll net (actions {} started iterations)).settings =
      (w.performAll net (.begin started :: loopActions {} iterations)).settings := by
    rw [actions, performAll_append]
    exact settings_flush net _
  refine ⟨⟨?_, ?_, ?_⟩, ⟨?_, ?_⟩, fun done _ => reported_le_performAll (Nat.le_refl 0) done⟩
  · rw [hlooped]
    exact totals_performAll net w _
  · rw [hlooped]
    exact truthful_performAll c hstate created net hloopSum hscanner
      (hreported.trans (congrArg Scanner.discarded hscanner.symm))
  · intro hcontinues
    rw [hlooped]
    exact pending_loop net rfl hcontinues
  -- At the end of a run all is public, so that the shared counters are the total.
  · have hpublic : ran.pending = {} := pending_run net w started iterations
    have htotals := totals_performAll net w (actions {} started iterations)
    rw [← hran, totals, hpublic] at htotals
    exact htotals
  · rw [hran]
    refine truthful_performAll c hstate created net (hrunSum.trans hloopSum)
      ((congrArg Settings.scanner hsettings).trans hscanner) ?_
    have hnoise := congrArg (fun s : Settings => s.scanner.discarded) hsettings
    refine (congrArg Settings.reportedDiscarded hsettings).trans (Eq.trans ?_ hnoise.symm)
    exact hreported.trans (congrArg Scanner.discarded hscanner.symm)

/-- Noise, a frame and the beginning of another come in, and two datagrams for injection, one of
them empty. Then the rest of the frame comes in with the beginning of a third, and nothing more is
read. -/
def countedRun : List Iteration :=
  [⟨false, 0, .ready 10 (some (.received (3 :: shortFrame ++ signedFrame.take 5) 7))
      [⟨[1, 2, 3], 8⟩, ⟨[], 9⟩] none⟩,
    ⟨true, 5, .ready 0 (some (.received (signedFrame.drop 5 ++ shortFrame.take 4) 9)) [] none⟩,
    ⟨true, 6, .ready 0 (some (.failed "gone")) [⟨[4], 9⟩] none⟩]

/-- The first datagram is refused. -/
theorem counted_run_truthful :
    let w := start {} { directory := earlyClients } 0
    let ran := (w.run hesitantNetwork 0 countedRun).1
    earlyClients.Reachable ∧
      Truthful MessageKind.bulk (.v4 ⟨10, 0, 0, 1⟩ 14550) countedRun ran
        ((w.entries hesitantNetwork (actions {} 0 countedRun)).map Accounts.Entry.downlink).sum ∧
      ran.state.downlink =
        { frames := 2, serialBytes := 39, checksumFailed := 2, discardedBytes := 1
          aggregatesSent := 1, aggregateBytes := 63, fanoutDatagrams := 5, injected := 1
          sendFailures := 1 } := by
  have hreachable : earlyClients.Reachable := ⟨_, _, _, rfl⟩
  obtain ⟨-, ⟨-, htruthful⟩, -⟩ :=
    counters_tell_the_truth {} { directory := earlyClients } hreachable 0 hesitantNetwork 0
      countedRun
  exact ⟨hreachable, htruthful, by decide +kernel⟩

end VehicleLink.Downlink
