import VehicleLink.Proofs.Downlink.Actions

/-!
# What becomes of a datagram does not matter to the others

Whether a datagram is taken decides what the worker counts and reports, but not what it sends. All
that decides what is sent is put together in `Downlink.Course`, with the datagrams so far, but
without what became of them. Two workers that agree on it still agree after the same action in
networks that differ only in which datagrams they take (`perform_congr`), so that two such runs send
the same (`run_congr`).
-/

namespace VehicleLink

/-- The datagram and where it was to go, whatever became of it. -/
def SendAttempt.datagram (s : SendAttempt) : SocketAddress × Bytes := (s.target, s.bytes)

/-- The networks differ at most in what becomes of datagrams. -/
structure Network.Alike (net other : Network) : Prop where
  wallMicros_eq : net.wallMicros = other.wallMicros
  meanwhile_eq : net.meanwhile = other.meanwhile

namespace Downlink

/-- What decides what is sent: the fields of these names of a worker and of its state. -/
structure Course where
  settings : Settings
  directory : Directory
  aggregate : Aggregate
  batch : UInt32
  messages : Nat
  sent : List (SocketAddress × Bytes)
deriving DecidableEq

/-- What decides what this worker sends. -/
def course (w : Downlink) : Course where
  settings := w.settings
  directory := w.state.directory
  aggregate := w.aggregate
  batch := w.batch
  messages := w.messages
  sent := w.sent.toList.map SendAttempt.datagram

/-! ## What the operations do to the course -/

/-- A datagram is handed over, and that is all that others see of it. -/
theorem course_send (net : Network) (w : Downlink) (target : SocketAddress) (bytes : Bytes)
    (credit : DownlinkCounters) :
    (w.send net target bytes credit).course =
      { w.course with sent := w.course.sent ++ [(target, bytes)] } := by
  -- What became of the datagram is recorded with it, but not in the course.
  have hsent : (w.sent.push ⟨target, bytes, net.delivery w.sent.size target⟩).toList.map
      SendAttempt.datagram = w.course.sent ++ [(target, bytes)] := by
    rw [Array.toList_push, List.map_append]
    rfl
  rw [← hsent]
  unfold send
  cases net.delivery w.sent.size target with
  | delivered => rfl
  | failed reason now => rfl

/-- If frames wait, a batch is handed over, whether or not it is taken. -/
theorem course_flush (net : Network) (w : Downlink) :
    (w.flush net).course =
      match w.aggregate.take? w.batch (net.wallMicros w.sent.size) with
      | none => w.course
      | some (datagram, aggregate) =>
        { w.course with
          aggregate, batch := w.batch + 1
          sent := w.course.sent ++ [(w.state.primary, datagram)] } := by
  unfold flush
  cases w.aggregate.take? w.batch (net.wallMicros w.sent.size) with
  | none => rfl
  | some taken => exact course_send net _ _ _ _

/-- The same datagram for each of the clients, in their order. -/
theorem course_sendAll (net : Network) (w : Downlink) (bytes : Bytes) (credit : DownlinkCounters)
    (clients : List SocketAddress) :
    (clients.foldl (fun w client => w.send net client bytes credit) w).course =
      { w.course with sent := w.course.sent ++ clients.map (·, bytes) } := by
  induction clients generalizing w with
  | nil =>
    rw [List.map_nil, List.append_nil]
    rfl
  | cons client rest ih =>
    rw [List.foldl_cons, ih, course_send, List.map_cons, List.append_assoc]
    rfl

/-- The recipients are found in the directory as it is by then, and each is sent the message
once. -/
theorem course_fanOut (net : Network) (w : Downlink) (bytes : Bytes) (targets : Option Targets) :
    (w.fanOut net bytes targets).course =
      { w.course with
        directory := w.state.directory.after (net.meanwhile w.messages)
        messages := w.messages + 1
        sent := w.course.sent ++
          ((w.state.directory.after (net.meanwhile w.messages)).recipients targets).map
            (·, bytes) } :=
  course_sendAll net _ bytes _ _

theorem aggregate_fanOut (net : Network) (w : Downlink) (bytes : Bytes) (targets : Option Targets) :
    (w.fanOut net bytes targets).aggregate = w.aggregate :=
  congrArg Course.aggregate (course_fanOut net w bytes targets)

theorem course_noted (w : Downlink) (a : Arrival) : (w.noted a).course = w.course := by
  obtain ⟨clock, notices, streams, hnoted⟩ := noted_eq w a
  rw [hnoted]
  rfl

/-! ## Two workers on the same course -/

variable {net other : Network} {w v : Downlink}

/-- Workers that agree have handed over equally many datagrams, which is what the network goes
by. -/
theorem size_sent_of_course (h : w.course = v.course) : w.sent.size = v.sent.size := by
  have hlength := congrArg (fun c : Course => c.sent.length) h
  simpa only [course, List.length_map, Array.length_toList] using hlength

/-- The same frames wait in both, so that both send the same batch or none. -/
theorem flush_congr (hnet : net.Alike other) (h : w.course = v.course) :
    (w.flush net).course = (v.flush other).course := by
  have haggregate : w.aggregate = v.aggregate := congrArg Course.aggregate h
  have hbatch : w.batch = v.batch := congrArg Course.batch h
  have hprimary : w.state.primary = v.state.primary :=
    congrArg (fun c : Course => c.directory.registry.primary) h
  rw [course_flush, course_flush, haggregate, hbatch, hprimary, size_sent_of_course h,
    hnet.wallMicros_eq, h]

theorem addIfRoom_congr (h : w.course = v.course) (bytes : Bytes) (micros : UInt64) :
    (w.addIfRoom bytes micros).course = (v.addIfRoom bytes micros).course := by
  have haggregate : w.aggregate = v.aggregate := congrArg Course.aggregate h
  unfold addIfRoom
  rw [haggregate]
  cases v.aggregate.append bytes micros with
  | ok aggregate => exact congrArg (fun c : Course => { c with aggregate }) h
  | error e => exact h

/-- Both find room, or neither does. -/
theorem collect_congr (hnet : net.Alike other) (h : w.course = v.course) (bytes : Bytes)
    (micros : UInt64) :
    (w.collect net bytes micros).course = (v.collect other bytes micros).course := by
  have haggregate : w.aggregate = v.aggregate := congrArg Course.aggregate h
  unfold collect
  rw [haggregate]
  cases v.aggregate.append bytes micros with
  | ok aggregate => exact congrArg (fun c : Course => { c with aggregate }) h
  | error e =>
    -- Only for want of room is there a second attempt, after a batch was sent.
    cases e with
    | aggregateOverflow needed remaining => exact addIfRoom_congr (flush_congr hnet h) bytes micros
    | _ => exact h

/-- Both send at once, or neither does. -/
theorem aggregateFrame_congr (hnet : net.Alike other) (h : w.course = v.course) (bytes : Bytes)
    (micros : UInt64) :
    (w.aggregateFrame net bytes micros).course = (v.aggregateFrame other bytes micros).course := by
  have hcollect := collect_congr hnet h bytes micros
  -- The gate and the room left are both in the course.
  have hflushes : (w.collect net bytes micros).flushesAtOnce =
      (v.collect other bytes micros).flushesAtOnce :=
    congrArg (fun c : Course => c.settings.rcLocked || c.aggregate.isNearlyFull) hcollect
  rw [aggregateFrame_eq, aggregateFrame_eq, hflushes]
  split
  · exact flush_congr hnet hcollect
  · exact hcollect

theorem fanOut_congr (hnet : net.Alike other) (h : w.course = v.course) (bytes : Bytes)
    (targets : Option Targets) :
    (w.fanOut net bytes targets).course = (v.fanOut other bytes targets).course := by
  have hdirectory : w.state.directory = v.state.directory := congrArg Course.directory h
  have hmessages : w.messages = v.messages := congrArg Course.messages h
  rw [course_fanOut, course_fanOut, hdirectory, hmessages, hnet.meanwhile_eq, h]

theorem treat_congr (hnet : net.Alike other) (h : w.course = v.course) (a : Arrival) :
    (w.treat net a).course = (v.treat other a).course := by
  have hbulkIds : w.bulkIds = v.bulkIds := congrArg (fun c : Course => c.settings.bulkIds) h
  have hnoted : (w.noted a).course = (v.noted a).course := by
    rw [course_noted, course_noted, h]
  rw [treat_eq, treat_eq, hbulkIds]
  refine fanOut_congr hnet ?_ a.bytes a.targets
  split
  · exact hnoted
  · exact aggregateFrame_congr hnet hnoted a.bytes a.micros

theorem meetDeadline_congr (hnet : net.Alike other) (h : w.course = v.course) (now : Nat) :
    (w.meetDeadline net now).course = (v.meetDeadline other now).course := by
  have hnext : w.nextFlush = v.nextFlush := congrArg (fun c : Course => c.settings.nextFlush) h
  unfold meetDeadline
  rw [hnext]
  split
  · exact congrArg (fun c : Course => { c with settings := { c.settings with
      nextFlush := Deadline.advance c.settings.flushInterval c.settings.nextFlush now } })
      (flush_congr hnet h)
  · exact h

/-- What is only counted or reported leaves the course alone, and the other actions read nothing of
a worker but its course. -/
theorem perform_congr (hnet : net.Alike other) (h : w.course = v.course) (action : Action) :
    (w.perform net action).course = (v.perform other action).course := by
  -- Each action is the same function of the course for both, whatever the networks make of the
  -- datagrams.
  cases action with
  | reportInjection | publish | finish => exact h
  | begin now =>
    exact congrArg (fun c : Course => { c with settings := { c.settings with
      nextFlush := now + c.settings.flushInterval } }) h
  | readGate locked =>
    exact congrArg
      (fun c : Course => { c with settings := { c.settings with rcLocked := locked } }) h
  | meetDeadline now => exact meetDeadline_congr hnet h now
  | addBlocked micros =>
    exact congrArg (fun c : Course => { c with aggregate := c.aggregate.addBlocked micros }) h
  | scan piece =>
    exact congrArg (fun c : Course => { c with settings := { c.settings with
      scanner := (c.settings.scanner.push piece).drain.2 } }) h
  | treat a => exact treat_congr hnet h a
  | countNoise =>
    exact congrArg (fun c : Course => { c with settings := { c.settings with
      reportedDiscarded := c.settings.scanner.discarded } }) h
  | flush => exact flush_congr hnet h

theorem performAll_congr (hnet : net.Alike other) (h : w.course = v.course)
    (actions : List Action) :
    (w.performAll net actions).course = (v.performAll other actions).course := by
  induction actions generalizing w v with
  | nil => exact h
  | cons action rest ih => exact ih (perform_congr hnet h action)

/-- What a run sends does not depend on what becomes of it. -/
theorem run_congr (hnet : net.Alike other) (w : Downlink) (now : Nat)
    (iterations : List Iteration) :
    (w.run net now iterations).1.course = (w.run other now iterations).1.course := by
  rw [run_eq_performAll, run_eq_performAll]
  exact performAll_congr hnet rfl _

end Downlink

end VehicleLink
