import VehicleLink.Proofs.Downlink.Tally
import VehicleLink.Proofs.LittleEndian

/-!
# Where the vehicle's time comes from

A frame tells a time that can be trusted if its checksum is right, it is of the kind that tells the
time, and the time is not zero (`Frame.trustedTime?`). The worker keeps the first such time of the
serial stream and announces it. Both are put together in `Downlink.Timing`: an action hears the time
of what it treats and does nothing else to it (`timing_perform`), and once a time is kept, hearing
another one changes nothing. Which frames there are does not depend on how the stream was cut into
pieces (`serialFrames_eq_drain`), so that the stream alone decides.
-/

namespace VehicleLink

/-! ## Times that can be trusted -/

/-- The time that a frame tells, if it can be trusted: the checksum is right, and the first eight
bytes of the payload, with zeros for those that are cut off, are not all zero. -/
def Frame.trustedTime? (f : Frame) : Option UInt64 :=
  let micros := LittleEndian.decode ((f.payload ++ List.replicate 8 0).take 8)
  if f.checksumOk ∧ f.header.messageId = 2 ∧ micros ≠ 0 then some (UInt64.ofNat micros) else none

/-- Only one kind of message tells the time. -/
theorem Message.vehicleTime?_of_ne {messageId : UInt32} (h : messageId ≠ MessageKind.systemTime)
    (payload : Bytes) : vehicleTime? messageId payload = none := by
  unfold vehicleTime? decode?
  rw [if_neg h]
  split
  · rename_i m hdecode
    -- The other two kinds that are read are commands.
    split at hdecode
    · obtain ⟨_, -, hm⟩ := Option.map_eq_some_iff.1 hdecode
      cases hm
    · split at hdecode
      · obtain ⟨_, -, hm⟩ := Option.map_eq_some_iff.1 hdecode
        cases hm
      · split at hdecode <;> cases hdecode
  · rfl

/-- Reading the whole message comes to the same. -/
theorem Frame.trustedTime?_eq (f : Frame) :
    f.trustedTime? =
      if f.checksumOk then Message.vehicleTime? f.header.messageId f.payload else none := by
  -- The first eight bytes, with zeros for those cut off, are the field that the whole message has
  -- at its start.
  have hfield : LittleEndian.decode ((f.payload ++ List.replicate 8 0).take 8) =
      LittleEndian.fieldAt f.payload 0 8 := (LittleEndian.fieldAt_eq_decode f.payload 0 8).symm
  -- Eight bytes fit into the number, so that it is zero only if they are.
  have hfits : LittleEndian.fieldAt f.payload 0 8 < UInt64.size :=
    LittleEndian.fieldAt_lt f.payload 0 8
  have hzero : UInt64.ofNat (LittleEndian.fieldAt f.payload 0 8) = 0 ↔
      LittleEndian.fieldAt f.payload 0 8 = 0 := by
    rw [← UInt64.toNat_inj, UInt64.toNat_ofNat_of_lt' hfits]
    rfl
  unfold trustedTime?
  rw [hfield]
  by_cases hchecksum : f.checksumOk
  · rw [if_pos hchecksum]
    by_cases hkind : f.header.messageId = 2
    · have hdecode : Message.decode? f.header.messageId f.payload =
          some (.systemTime (Message.readSystemTime f.payload)) := if_pos hkind
      rw [Message.vehicleTime?, hdecode]
      simp [hchecksum, hkind, Message.readSystemTime, hzero]
    · rw [Message.vehicleTime?_of_ne hkind, if_neg fun h => hkind h.2.1]
  · rw [if_neg hchecksum, if_neg fun h => hchecksum h.1]

/-- The time of an announcement. -/
def Notice.vehicleTime? : Notice → Option UInt64
  | vehicleTime micros => some micros
  | _ => none

/-- Failures to send are no announcements. -/
theorem SendFailureLog.vehicleTime?_record (log : SendFailureLog) (target : SocketAddress)
    (reason : String) (now : Nat) :
    (log.record target reason now).1.toList.filterMap Notice.vehicleTime? = [] := by
  unfold record
  split
  · rfl
  · split <;> rfl

theorem SendFailureLog.vehicleTime?_flush (log : SendFailureLog) (now : Nat) :
    (log.flush now).1.toList.filterMap Notice.vehicleTime? = [] := by
  unfold SendFailureLog.flush
  split
  · rfl
  · dsimp only
    split <;> rfl

namespace Downlink

/-- Only frames from the serial line tell a time. -/
def Arrival.trustedTime? (a : Arrival) : Option UInt64 := a.serial?.bind Frame.trustedTime?

/-! ## What is kept and announced -/

/-- What the worker knows of the vehicle's time, with all that it announced of it. -/
structure Timing where
  syncedAt : Option UInt64
  announced : List UInt64
deriving DecidableEq

/-- What this worker knows and has announced of the vehicle's time. -/
def timing (w : Downlink) : Timing where
  syncedAt := w.clock.syncedAt
  announced := w.notices.toList.filterMap Notice.vehicleTime?

/-- Hears a time, if there is one. Only the first is kept and announced. -/
def Timing.hear (t : Timing) (time? : Option UInt64) : Timing :=
  match t.syncedAt, time? with
  | none, some micros => { syncedAt := some micros, announced := t.announced ++ [micros] }
  | _, _ => t

@[simp] theorem Timing.hear_none (t : Timing) : t.hear none = t := by
  unfold hear
  cases t.syncedAt <;> rfl

theorem Timing.hear_of_synced {t : Timing} (h : t.syncedAt.isSome = true) (time? : Option UInt64) :
    t.hear time? = t := by
  obtain ⟨micros, hsynced⟩ := Option.isSome_iff_exists.1 h
  unfold hear
  rw [hsynced]

theorem Timing.hearAll_of_synced {t : Timing} (h : t.syncedAt.isSome = true)
    (times : List (Option UInt64)) : times.foldl hear t = t := by
  induction times with
  | nil => rfl
  | cons time? rest ih => rw [List.foldl_cons, hear_of_synced h, ih]

/-- Of all that is heard, the first time is kept, and it is announced once. -/
theorem Timing.hearAll {α : Type} (time? : α → Option UInt64) (l : List α) :
    (l.map time?).foldl hear { syncedAt := none, announced := [] } =
      { syncedAt := l.findSome? time?, announced := (l.findSome? time?).toList } := by
  induction l with
  | nil => rfl
  | cons a rest ih =>
    rw [List.map_cons, List.foldl_cons, List.findSome?_cons]
    -- As long as none was heard the next one is the first; after that nothing changes any more.
    cases time? a with
    | none => exact ih
    | some micros => exact hearAll_of_synced rfl (rest.map time?)

/-! ## What the operations do to it -/

variable (net : Network) (w : Downlink)

theorem timing_report {notices : List Notice}
    (h : notices.filterMap Notice.vehicleTime? = []) : (w.report notices).timing = w.timing := by
  unfold timing report
  rw [Array.toList_append, List.filterMap_append, h, List.append_nil]

theorem timing_noteFailure (target : SocketAddress) (reason : String) (now : Nat) :
    (w.noteFailure target reason now).timing = w.timing := by
  unfold noteFailure
  exact timing_report _ (w.sendFailures.vehicleTime?_record target reason now)

theorem timing_send (target : SocketAddress) (bytes : Bytes) (credit : DownlinkCounters) :
    (w.send net target bytes credit).timing = w.timing := by
  unfold send
  cases net.delivery w.sent.size target with
  | delivered => rfl
  | failed reason now => exact timing_noteFailure _ target reason now

theorem timing_flush : (w.flush net).timing = w.timing := by
  unfold flush
  split
  · rfl
  · exact timing_send net _ _ _ _

theorem timing_aggregateFrame (bytes : Bytes) (receivedMicros : UInt64) :
    (w.aggregateFrame net bytes receivedMicros).timing = w.timing :=
  aggregateFrame_keeps net (P := fun v => v.timing = w.timing) (fun _ _ h => h)
    (fun v h => (timing_flush net v).trans h) rfl bytes receivedMicros

theorem timing_fanOut (bytes : Bytes) (targets : Option Targets) :
    (w.fanOut net bytes targets).timing = w.timing := by
  unfold fanOut
  refine List.foldlRecOn (motive := fun v : Downlink => v.timing = w.timing) _ _ rfl ?_
  intro v hv client _
  exact (timing_send net v client bytes _).trans hv

theorem timing_meetDeadline (now : Nat) : (w.meetDeadline net now).timing = w.timing := by
  unfold meetDeadline
  split
  · exact (timing_report _ ((w.flush net).sendFailures.vehicleTime?_flush now)).trans
      (timing_flush net w)
  · rfl

/-- Where the clock is told a time, it is heard. -/
theorem timing_observeClock (f : Frame) :
    (w.observeClock f).timing = w.timing.hear f.trustedTime? := by
  rw [Frame.trustedTime?_eq]
  unfold observeClock
  split
  · cases Message.vehicleTime? f.header.messageId f.payload with
    | none => exact w.timing.hear_none.symm
    -- The clock keeps it only if it has none, and announces it in the same case.
    | some micros =>
      unfold timing report VehicleClock.observe VehicleClock.observeNotices VehicleClock.isSynced
      rw [Array.toList_append, List.filterMap_append]
      unfold Timing.hear
      cases w.clock.syncedAt with
      | none => rfl
      | some earlier => exact congrArg (Timing.mk (some earlier)) (List.append_nil _)
  · exact w.timing.hear_none.symm

theorem timing_noted (a : Arrival) : (w.noted a).timing = w.timing.hear a.trustedTime? := by
  cases a with
  | injected bytes receivedMicros => exact w.timing.hear_none.symm
  | frame f receivedMicros =>
    have hnote : (w.note f).timing = w.timing.hear f.trustedTime? :=
      timing_observeClock
        (w.count { frames := 1, checksumFailed := if f.checksumOk then 0 else 1 }) f
    show (if w.isBulk f then (w.note f).count { bulkFrames := 1 } else w.note f).timing = _
    split <;> exact hnote

/-- What comes in is heard for the time that it tells, and passing it on adds nothing. -/
theorem timing_treat (a : Arrival) : (w.treat net a).timing = w.timing.hear a.trustedTime? := by
  rw [treat_eq, timing_fanOut]
  split
  · exact timing_noted w a
  · rw [timing_aggregateFrame, timing_noted]

/-- An action hears the time of what it treats. -/
theorem timing_perform (action : Action) :
    (w.perform net action).timing = w.timing.hear (action.arrival?.bind Arrival.trustedTime?) := by
  cases action with
  | begin | finish => exact (timing_report _ rfl).trans w.timing.hear_none.symm
  | readGate | addBlocked | scan | countNoise | publish => exact w.timing.hear_none.symm
  | meetDeadline now => exact (timing_meetDeadline net w now).trans w.timing.hear_none.symm
  | flush => exact (timing_flush net w).trans w.timing.hear_none.symm
  | treat a => exact timing_treat net w a
  | reportInjection failure =>
    refine (timing_report w ?_).trans w.timing.hear_none.symm
    cases failure <;> rfl

/-- The times are heard in the order in which they come in. -/
theorem timing_performAll (actions : List Action) :
    (w.performAll net actions).timing =
      ((actions.filterMap Action.arrival?).map Arrival.trustedTime?).foldl
        Timing.hear w.timing := by
  induction actions generalizing w with
  | nil => rfl
  | cons action rest ih =>
    rw [performAll_cons, ih, timing_perform, filterMap_arrival?_cons, List.map_append,
      List.foldl_append]
    cases action.arrival? with
    | none => rw [Option.bind_none, Timing.hear_none]; rfl
    | some a => rfl

/-- What is kept is never changed. -/
theorem timing_performAll_of_synced (h : w.timing.syncedAt.isSome = true) (actions : List Action) :
    (w.performAll net actions).timing = w.timing := by
  rw [timing_performAll, Timing.hearAll_of_synced h]

/-! ## The stream alone decides -/

/-- Only frames from the serial line count, and their order is that of the arrivals. -/
theorem findSome?_arrivals (arrivals : List Arrival) :
    arrivals.findSome? Arrival.trustedTime? =
      (arrivals.filterMap Arrival.serial?).findSome? Frame.trustedTime? := by
  rw [← List.head?_filterMap, ← List.head?_filterMap, List.filterMap_filterMap]
  rfl

/-- What an iteration reads may as well be cut into frames together with what is read later. -/
theorem drain_read (s : Scanner) (i : Iteration) (later : Bytes) :
    (s.push (i.piece ++ later)).drain.1 =
      (i.read.arrivals s).filterMap Arrival.serial? ++ ((i.read.scanner s).push later).drain.1 := by
  unfold Iteration.piece SerialRead.arrivals SerialRead.scanner
  cases i.read.piece? with
  | none => rfl
  | some piece =>
    show (s.push (piece.1 ++ later)).drain.1 =
      ((s.push piece.1).drain.1.map (Arrival.frame · piece.2)).filterMap Arrival.serial? ++
        ((s.push piece.1).drain.2.push later).drain.1
    -- Pushing both and draining once is the same as draining in between.
    rw [← Scanner.push_push, Scanner.drain_push, filterMap_serial?_frames]

/-- What an iteration leaves in the scanner is never a whole frame. -/
theorem drain_scanner {s : Scanner} (h : s.drain.1 = []) (i : Iteration) :
    (i.read.scanner s).drain.1 = [] := by
  unfold SerialRead.scanner
  cases i.read.piece? with
  | none => exact h
  | some piece => exact (s.push piece.1).drain_drain

/-- The pieces in which the stream was read make no difference, if at first no frame was
complete. -/
theorem serialFrames_eq_drain {s : Scanner} (h : s.drain.1 = []) (iterations : List Iteration) :
    serialFrames s iterations = (s.push (bytesRead iterations)).drain.1 := by
  -- On the iterations. One that ends the loop contributes nothing, neither frames nor bytes.
  induction iterations generalizing s with
  | nil =>
    show [] = (s.push []).drain.1
    rw [Scanner.push_nil, h]
  | cons i rest ih =>
    rw [serialFrames_cons, bytesRead]
    cases hfailure : i.read.failure? with
    | some error =>
      rw [completed_of_failure hfailure, SerialRead.arrivals, SerialRead.piece?_of_failure hfailure]
      show [] = (s.push []).drain.1
      rw [Scanner.push_nil, h]
    | none =>
      rw [completed_of_success hfailure, List.flatMap_cons, drain_read]
      show _ ++ serialFrames (i.read.scanner s) rest = _
      rw [ih (drain_scanner h i)]
      rfl

/-- The first time of a stream that can be trusted. -/
def firstTrustedTime? (stream : Bytes) : Option UInt64 :=
  ((({} : Scanner).push stream).drain.1).findSome? Frame.trustedTime?

/-- A worker that begins with nothing knows the first time of what it reads. -/
theorem timing_of_arrivals {w : Downlink} (h : w.timing = ⟨none, []⟩)
    {iterations : List Iteration} {actions : List Action}
    (hactions : actions.filterMap Action.arrival? = arrivals {} iterations) :
    (w.performAll net actions).timing =
      ⟨firstTrustedTime? (bytesRead iterations),
        (firstTrustedTime? (bytesRead iterations)).toList⟩ := by
  -- All that depends on how the stream was cut is gone after this step.
  have hfirst : (arrivals {} iterations).findSome? Arrival.trustedTime? =
      firstTrustedTime? (bytesRead iterations) := by
    rw [findSome?_arrivals]
    exact congrArg _ (serialFrames_eq_drain (by decide +kernel) iterations)
  rw [timing_performAll, hactions, h, Timing.hearAll, hfirst]

/-- Treating a frame that tells no time that can be trusted. -/
theorem timing_handleFrame_of_untrusted {f : Frame}
    (h : f.checksumOk = false ∨ f.header.messageId ≠ 2 ∨
      LittleEndian.decode ((f.payload ++ List.replicate 8 0).take 8) = 0)
    (receivedMicros : UInt64) :
    (w.handleFrame net f receivedMicros).timing = w.timing := by
  -- Each of the three reasons contradicts one of the conditions under which a time is told.
  have hnone : f.trustedTime? = none := by
    refine if_neg fun ⟨hchecksum, hkind, hmicros⟩ => ?_
    rcases h with hwrong | hother | hzero
    · rw [hwrong] at hchecksum
      cases hchecksum
    · exact hother hkind
    · exact hmicros hzero
  have htreat := timing_treat net w (.frame f receivedMicros)
  have hheard : (Arrival.frame f receivedMicros).trustedTime? = none := hnone
  rw [hheard, Timing.hear_none] at htreat
  exact htreat

/-! ## The theorem -/

/-- **The first time of the serial stream that can be trusted is kept, and nothing else.** After any
iterations, also if the last of them ends the loop, and at the end of the run: the worker knows the
time of the first frame of the stream with a right checksum, of the kind that tells the time, and
with a time that is not zero, and none if there is no such frame; it announced that time once and no
other. The stream is what was read, whatever the pieces and whatever was injected meanwhile. At
every moment of the run a time that is known stays as it is and is not announced again. In every
state, neither an injected datagram nor a frame of another kind, with a wrong checksum or with a
time of zero has an effect on it, nor has anything that the worker does but to treat what came
in. -/
theorem first_trusted_time_kept (c : Config) (state : State) (created : Nat) (net : Network)
    (started : Nat) (iterations : List Iteration) :
    let w := start c state created
    let looped := ((w.perform net (.begin started)).loop net iterations).1
    let ran := (w.run net started iterations).1
    let first := firstTrustedTime? (bytesRead iterations)
    (looped.timing = { syncedAt := first, announced := first.toList } ∧
      ran.timing = { syncedAt := first, announced := first.toList }) ∧
    (∀ done more micros, done ++ more = actions {} started iterations →
      (w.performAll net done).clock.syncedAt = some micros →
        (w.performAll net (done ++ more)).timing = (w.performAll net done).timing) ∧
    ∀ v : Downlink,
      (∀ bytes receivedMicros, (v.handleInjected net bytes receivedMicros).timing = v.timing) ∧
      (∀ f receivedMicros, f.checksumOk = false ∨ f.header.messageId ≠ 2 ∨
        LittleEndian.decode ((f.payload ++ List.replicate 8 0).take 8) = 0 →
          (v.handleFrame net f receivedMicros).timing = v.timing) ∧
      ∀ action, action.arrival? = none → (v.perform net action).timing = v.timing := by
  intro w looped ran first
  have hlooped : looped = w.performAll net (.begin started :: loopActions {} iterations) :=
    congrArg Prod.fst (loop_eq_performAll net (w.perform net (.begin started)) iterations)
  have hran : ran = w.performAll net (actions {} started iterations) :=
    congrArg Prod.fst (run_eq_performAll net w started iterations)
  refine ⟨⟨?_, ?_⟩, ?_, fun v => ⟨?_, ?_, ?_⟩⟩
  · rw [hlooped]
    exact timing_of_arrivals net rfl (filterMap_arrival?_loopActions {} iterations)
  · rw [hran]
    exact timing_of_arrivals net rfl (filterMap_arrival?_actions {} started iterations)
  -- Being known at some point means that everything after it is heard in vain.
  · intro done more micros _ hsynced
    have hknown : (w.performAll net done).timing.syncedAt.isSome = true :=
      Option.isSome_iff_exists.2 ⟨micros, hsynced⟩
    rw [performAll_append, timing_performAll_of_synced net _ hknown]
  · intro bytes receivedMicros
    exact (timing_treat net v (.injected bytes receivedMicros)).trans v.timing.hear_none
  · intro f receivedMicros huntrusted
    exact timing_handleFrame_of_untrusted net v huntrusted receivedMicros
  · intro action hother
    rw [timing_perform, hother]
    exact v.timing.hear_none

/-- A time with a wrong checksum, a time of zero, and the beginning of the time five, while the time
nine is injected. Then the rest of it comes in, and the time six. -/
def talkingRun : List Iteration :=
  let time (micros : UInt8) : Bytes := Frame.encode 0 1 1 2 [micros]
  [⟨false, 0, .ready 10
      (some (.received ((time 7).dropLast ++ [0] ++ time 0 ++ (time 5).take 4) 7))
      [⟨time 9, 8⟩] none⟩,
    ⟨false, 5, .ready 0 (some (.received ((time 5).drop 4 ++ time 6) 9)) [] none⟩]

theorem time_five_kept :
    let w := start {} { directory := earlyClients } 0
    let ran := (w.run hesitantNetwork 0 talkingRun).1
    let zero : Frame := ⟨⟨.v1, 2, 0, 0, 1, 1, 2⟩, [0xFE, 2, 0, 1, 1, 2, 0, 0, 0xAA, 0xBB], true⟩
    firstTrustedTime? (bytesRead talkingRun) = some 5 ∧ ran.timing = ⟨some 5, [5]⟩ ∧
      (w.performAll hesitantNetwork (actions {} 0 talkingRun ++ [])).timing =
        (w.performAll hesitantNetwork (actions {} 0 talkingRun)).timing ∧
      LittleEndian.decode ((zero.payload ++ List.replicate 8 0).take 8) = 0 ∧
      (w.handleFrame hesitantNetwork zero 7).timing = w.timing ∧
      (w.perform hesitantNetwork .flush).timing = w.timing := by
  intro w ran zero
  have hfirst : firstTrustedTime? (bytesRead talkingRun) = some 5 := by decide +kernel
  have hzero : LittleEndian.decode ((zero.payload ++ List.replicate 8 0).take 8) = 0 := by decide
  obtain ⟨⟨-, hran⟩, hkept, hothers⟩ :=
    first_trusted_time_kept {} { directory := earlyClients } 0 hesitantNetwork 0 talkingRun
  rw [hfirst] at hran
  have hknown :
      (w.performAll hesitantNetwork (actions {} 0 talkingRun)).clock.syncedAt = some 5 := by
    have hsynced := congrArg Timing.syncedAt hran
    rw [run_eq_performAll] at hsynced
    exact hsynced
  obtain ⟨-, huntrusted, hactions⟩ := hothers w
  exact ⟨hfirst, hran, hkept _ [] 5 (List.append_nil _) hknown, hzero,
    huntrusted zero 7 (Or.inr (Or.inr hzero)), hactions .flush rfl⟩

end Downlink

end VehicleLink
