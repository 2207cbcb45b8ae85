import VehicleLink.Proofs.Downlink.Settings

/-!
# A run as a sequence of actions

What the downlink worker does can be written down before it runs: the actions of a run depend on its
iterations and on the bytes that the scanner holds, not on what becomes of the datagrams
(`run_eq_performAll`). What each action keeps, every run keeps, however many iterations it has and
however it ends. Among the actions, those that treat an arrival treat exactly what comes in
(`filterMap_arrival?_actions`).
-/

namespace VehicleLink.Downlink

/-- What the worker does, one thing after the other. -/
inductive Action where
  /-- It starts, and sets the first deadline. -/
  | begin (now : Nat)
  | readGate (locked : Bool)
  /-- It sends the waiting frames if their deadline has come. -/
  | meetDeadline (now : Nat)
  | addBlocked (micros : UInt64)
  /-- It cuts bytes from the serial line into frames. -/
  | scan (piece : Bytes)
  | treat (arrival : Arrival)
  /-- It counts the noise that was dropped. -/
  | countNoise
  /-- It reports that the injection socket failed, if it did. -/
  | reportInjection (failure : Option String)
  | publish
  | flush
  | finish
deriving DecidableEq, Repr

/-- The worker after an action. -/
def perform (net : Network) (w : Downlink) : Action → Downlink
  | .begin now =>
    { w with nextFlush := now + w.flushInterval }.report
      [.downlinkStarted w.state.primary w.flushInterval]
  | .readGate locked => { w with rcLocked := locked }
  | .meetDeadline now => w.meetDeadline net now
  | .addBlocked micros => { w with aggregate := w.aggregate.addBlocked micros }
  | .scan piece =>
    { w.count { serialBytes := piece.length } with scanner := (w.scanner.push piece).drain.2 }
  | .treat arrival => w.treat net arrival
  | .countNoise => w.countNoise
  | .reportInjection failure => w.report (failure.toList.map Notice.injectionFailed)
  | .publish => w.publish
  | .flush => w.flush net
  | .finish => w.report [.downlinkStopped]

/-- The worker after some actions, in order. -/
def performAll (net : Network) (w : Downlink) (actions : List Action) : Downlink :=
  actions.foldl (perform net) w

/-- What an action treats, if it treats something. -/
def Action.arrival? : Action → Option Arrival
  | treat arrival => some arrival
  | _ => none

/-- What the worker does with what came of reading from the serial line. -/
def SerialRead.actions (s : Scanner) (read : SerialRead) : List Action :=
  match read.piece? with
  | none => []
  | some (piece, _) => .scan piece :: (read.arrivals s).map .treat ++ [.countNoise]

/-- What the worker does in an iteration before it looks at the serial line. -/
def Iteration.opening (i : Iteration) : List Action :=
  -- The gate comes first, as it decides on what a deadline or an arrival does next.
  .readGate i.gate :: .meetDeadline i.now :: match i.wakeup with
  | .failed _ => []
  | .ready blockedMicros _ _ _ => [.addBlocked blockedMicros]

/-- What the worker does in an iteration with the datagrams that came for injection. -/
def Iteration.closing (i : Iteration) : List Action :=
  match i.wakeup with
  | .failed _ => []
  | .ready _ _ injected failure =>
    (injected.filterMap Injection.arrival?).map .treat ++ [.reportInjection failure, .publish]

def Iteration.actions (s : Scanner) (i : Iteration) : List Action :=
  i.opening ++ (i.read.actions s ++ match i.read.failure? with
  | some _ => []
  | none => i.closing)

def loopActions (s : Scanner) : List Iteration → List Action
  | [] => []
  | i :: rest => i.actions s ++ match i.read.failure? with
    | some _ => []
    | none => loopActions (i.read.scanner s) rest

/-- What the worker does in a run that starts at the time `now`. -/
def actions (s : Scanner) (now : Nat) (iterations : List Iteration) : List Action :=
  -- The last three are done however the loop ended.
  .begin now :: loopActions s iterations ++ [.flush, .publish, .finish]

/-! ## Doing things one after the other -/

variable (net : Network) (w : Downlink)

@[simp] theorem performAll_nil : w.performAll net [] = w := rfl

@[simp] theorem performAll_cons (a : Action) (rest : List Action) :
    w.performAll net (a :: rest) = (w.perform net a).performAll net rest := rfl

@[simp] theorem performAll_append (first second : List Action) :
    w.performAll net (first ++ second) = (w.performAll net first).performAll net second :=
  List.foldl_append

theorem performAll_map_treat (arrivals : List Arrival) :
    w.performAll net (arrivals.map .treat) = arrivals.foldl (treat net) w :=
  List.foldl_map

theorem settings_performAll_treat (arrivals : List Arrival) :
    (w.performAll net (arrivals.map .treat)).settings = w.settings := by
  rw [performAll_map_treat]
  exact settings_foldl w (settings_treat net) arrivals

/-! ## The loop -/

theorem feed_eq_performAll (piece : Bytes) (receivedMicros : UInt64) :
    w.feed net piece receivedMicros =
      w.performAll net (.scan piece ::
        ((w.scanner.push piece).drain.1.map (Arrival.frame · receivedMicros)).map .treat
          ++ [.countNoise]) := by
  rw [List.cons_append, performAll_cons, performAll_append, performAll_map_treat, List.foldl_map]
  rfl

theorem readSerial_eq_performAll (read : SerialRead) :
    w.readSerial net read = (w.performAll net (read.actions w.scanner), read.failure?) := by
  cases read with
  | received piece receivedMicros =>
    cases piece with
    | nil => rfl
    | cons b bs =>
      show (w.feed net (b :: bs) receivedMicros, none) = _
      rw [feed_eq_performAll]
      rfl
  | notReady => rfl
  | failed reason => rfl

theorem drainInjection_eq_performAll (injected : List Injection) (failure : Option String) :
    w.drainInjection net injected failure =
      w.performAll net ((injected.filterMap Injection.arrival?).map .treat
        ++ [.reportInjection failure]) := by
  -- An empty datagram is left out on both sides, and anything else is treated.
  have hfold : injected.foldl (inject net) w =
      (injected.filterMap Injection.arrival?).foldl (treat net) w := by
    rw [List.foldl_filterMap]
    congr 1
    funext v injection
    unfold inject Injection.arrival?
    cases injection.bytes.take injectLength with
    | nil => rfl
    | cons b bs => rfl
  rw [performAll_append, performAll_map_treat, ← hfold]
  rfl

/-- Reading changes what governs the loop in a way that does not depend on the worker: the scanner
goes on, and all its noise is counted then. -/
theorem settings_performAll_read (read : SerialRead) :
    (w.performAll net (read.actions w.scanner)).settings =
      { w.settings with
        scanner := read.scanner w.scanner
        reportedDiscarded :=
          if read.piece?.isSome then (read.scanner w.scanner).discarded
          else w.reportedDiscarded } := by
  -- What was read decides all three, and treating the frames leaves the scanner alone.
  unfold SerialRead.actions SerialRead.scanner SerialRead.arrivals
  cases read.piece? with
  | none => rfl
  | some piece =>
    simp only [List.cons_append, performAll_cons, performAll_append, performAll_nil]
    exact congrArg (fun s : Settings => { s with reportedDiscarded := s.scanner.discarded })
      (settings_performAll_treat net (w.perform net (.scan piece.1)) _)

/-- Before the input is looked at, only the gate and the deadline change. -/
theorem settings_performAll_opening (i : Iteration) :
    ∃ rcLocked nextFlush,
      (w.performAll net i.opening).settings = { w.settings with rcLocked, nextFlush } := by
  obtain ⟨nextFlush, hmet⟩ := settings_meetDeadline net { w with rcLocked := i.gate } i.now
  refine ⟨i.gate, nextFlush, ?_⟩
  unfold Iteration.opening
  cases i.wakeup <;> exact hmet

theorem scanner_performAll_opening (i : Iteration) :
    (w.performAll net i.opening).scanner = w.scanner := by
  obtain ⟨_, _, hsettings⟩ := settings_performAll_opening net w i
  exact congrArg Settings.scanner hsettings

/-- What is injected changes nothing of that. -/
theorem settings_performAll_closing (i : Iteration) :
    (w.performAll net i.closing).settings = w.settings := by
  unfold Iteration.closing
  cases i.wakeup with
  | failed reason => rfl
  | ready blockedMicros serial injected failure =>
    simp only [performAll_append]
    exact settings_performAll_treat net w _

theorem performAll_closing (i : Iteration) {blockedMicros : UInt64} {serial : Option SerialRead}
    {injected : List Injection} {failure : Option String}
    (h : i.wakeup = .ready blockedMicros serial injected failure) :
    w.performAll net i.closing = (w.drainInjection net injected failure).publish := by
  unfold Iteration.closing
  rw [h, drainInjection_eq_performAll]
  simp only [performAll_append]
  rfl

/-- An iteration is its actions, and it ends the loop if reading from the serial line failed.
Waiting that fails and waiting that tells of nothing to read count as reading. -/
theorem iterate_eq_performAll (i : Iteration) :
    w.iterate net i = (w.performAll net (i.actions w.scanner), i.read.failure?) := by
  have hread := readSerial_eq_performAll net (w.performAll net i.opening) i.read
  -- The opening has left the scanner alone, so that the bytes are cut as at the start.
  rw [scanner_performAll_opening] at hread
  cases hwakeup : i.wakeup with
  | failed reason =>
    -- Waiting failed, so that nothing is read and nothing is drained.
    obtain ⟨gate, now, wakeup⟩ := i
    subst hwakeup
    rfl
  | ready blockedMicros serial injected failure =>
    have hiterate : w.iterate net i =
        afterRead net injected failure ((w.performAll net i.opening).readSerial net i.read) := by
      -- Up to here the iteration did what its opening says.
      unfold iterate Iteration.opening Iteration.read
      rw [hwakeup]
      rfl
    unfold Iteration.actions
    rw [hiterate, hread, performAll_append, performAll_append]
    cases i.read.failure? with
    | some error => rfl
    | none =>
      rw [performAll_closing net _ i hwakeup]
      rfl

/-- What an iteration changes, whether or not it ends the loop. -/
theorem settings_performAll_iteration (i : Iteration) :
    ∃ rcLocked nextFlush, (w.performAll net (i.actions w.scanner)).settings =
      { w.settings with
        rcLocked, nextFlush
        scanner := i.read.scanner w.scanner
        reportedDiscarded := if i.read.piece?.isSome then (i.read.scanner w.scanner).discarded
          else w.reportedDiscarded } := by
  -- The opening moves only the gate and the deadline, the reading only the scanner and its noise.
  obtain ⟨rcLocked, nextFlush, hopening⟩ := settings_performAll_opening net w i
  have hread := settings_performAll_read net (w.performAll net i.opening) i.read
  have hreported : (w.performAll net i.opening).reportedDiscarded = w.reportedDiscarded :=
    congrArg Settings.reportedDiscarded hopening
  rw [hopening, hreported, scanner_performAll_opening] at hread
  refine ⟨rcLocked, nextFlush, ?_⟩
  unfold Iteration.actions
  rw [performAll_append, performAll_append, ← hread]
  cases i.read.failure? with
  | some error => rfl
  | none => exact settings_performAll_closing net _ i

/-- The scanner goes on by what was read, whatever else is done in an iteration. -/
theorem scanner_iterate (i : Iteration) :
    (w.performAll net (i.actions w.scanner)).scanner = i.read.scanner w.scanner := by
  obtain ⟨_, _, hsettings⟩ := settings_performAll_iteration net w i
  exact congrArg Settings.scanner hsettings

theorem loop_eq_performAll (iterations : List Iteration) :
    w.loop net iterations =
      (w.performAll net (loopActions w.scanner iterations), failure? iterations) := by
  -- The scanner after the first iteration is known before it, and so are the actions of the others.
  induction iterations generalizing w with
  | nil => rfl
  | cons i rest ih =>
    unfold loop loopActions failure?
    rw [iterate_eq_performAll, performAll_append]
    cases hfailure : i.read.failure? with
    | some error => rfl
    | none =>
      show (w.performAll net (i.actions w.scanner)).loop net rest = _
      -- The others start from the scanner that the actions of the first one foresee.
      rw [ih, scanner_iterate net w i]
      rfl

/-- Unless the first iteration ends the loop, the loop goes on with the others. -/
theorem loop_cons_of_success {i : Iteration} (h : i.read.failure? = none) (rest : List Iteration) :
    w.loop net (i :: rest) = (w.performAll net (i.actions w.scanner)).loop net rest := by
  rw [loop, iterate_eq_performAll, h]

/-- A loop that goes through its first iterations goes on with the others as if it had begun with
them. -/
theorem loop_append {first : List Iteration} (h : failure? first = none) (second : List Iteration) :
    w.loop net (first ++ second) = (w.loop net first).1.loop net second := by
  induction first generalizing w with
  | nil => rfl
  | cons i rest ih =>
    obtain ⟨hfirst, hrest⟩ := Option.or_eq_none_iff.1 h
    rw [List.cons_append, loop_cons_of_success net w hfirst, loop_cons_of_success net w hfirst,
      ih _ hrest]

theorem loop_singleton (i : Iteration) : (w.loop net [i]).1 = (w.iterate net i).1 := by
  unfold loop
  split
  · rename_i hiterate
    rw [hiterate]
  · rename_i hiterate
    rw [hiterate]
    rfl

/-- What each iteration keeps, the loop keeps, however it ends. -/
theorem loop_keeps {P : Downlink → Prop} {iterations : List Iteration}
    (hstep : ∀ v, ∀ i ∈ iterations, P v → P (v.performAll net (i.actions v.scanner))) (h : P w) :
    P (w.loop net iterations).1 := by
  induction iterations generalizing w with
  | nil => exact h
  | cons i rest ih =>
    have hnext : P (w.performAll net (i.actions w.scanner)) := hstep w i List.mem_cons_self h
    unfold loop
    rw [iterate_eq_performAll]
    cases i.read.failure? with
    | some error => exact hnext
    | none => exact ih _ (fun v j hj => hstep v j (List.mem_cons_of_mem i hj)) hnext

/-- The scanner after some iterations of which none ends the loop. -/
theorem scanner_loop {iterations : List Iteration} (h : failure? iterations = none) :
    (w.loop net iterations).1.scanner = scannerAfter w.scanner iterations := by
  rw [loop_eq_performAll]
  induction iterations generalizing w with
  | nil => rfl
  | cons i rest ih =>
    obtain ⟨hfirst, hrest⟩ := Option.or_eq_none_iff.1 h
    have hnext := scanner_iterate net w i
    unfold loopActions
    rw [hfirst, performAll_append]
    show (performAll net _ (loopActions (i.read.scanner w.scanner) rest)).scanner =
      scannerAfter (i.read.scanner w.scanner) rest
    rw [← hnext]
    exact ih _ hrest

/-- A run is its actions, however it ends. -/
theorem run_eq_performAll (now : Nat) (iterations : List Iteration) :
    w.run net now iterations =
      (w.performAll net (actions w.scanner now iterations), failure? iterations) := by
  unfold run actions
  rw [List.cons_append, performAll_cons, performAll_append]
  have hloop := loop_eq_performAll net (w.perform net (.begin now)) iterations
  -- Beginning is an action too; the loop starts from the worker after it.
  simp only [perform] at hloop
  simp only [hloop]
  rfl

/-! ## What the actions treat -/

theorem filterMap_arrival?_cons (action : Action) (rest : List Action) :
    (action :: rest).filterMap Action.arrival? =
      action.arrival?.toList ++ rest.filterMap Action.arrival? := by
  rw [List.filterMap_cons]
  cases action.arrival? <;> rfl

theorem filterMap_arrival?_map_treat (arrivals : List Arrival) :
    (arrivals.map Action.treat).filterMap Action.arrival? = arrivals := by
  rw [List.filterMap_map]
  exact List.filterMap_some

theorem Iteration.filterMap_arrival?_actions (s : Scanner) (i : Iteration) :
    (i.actions s).filterMap Action.arrival? = i.arrivals s := by
  -- Of the three parts only reading and draining treat something.
  have hopening : i.opening.filterMap Action.arrival? = [] := by
    unfold opening
    cases i.wakeup <;> rfl
  have hread : (i.read.actions s).filterMap Action.arrival? = i.read.arrivals s := by
    unfold SerialRead.actions SerialRead.arrivals
    cases i.read.piece? with
    | none => rfl
    | some piece =>
      simp only [List.cons_append, List.filterMap_cons, Action.arrival?, List.filterMap_append,
        filterMap_arrival?_map_treat, List.filterMap_nil, List.append_nil]
  have hclosing : i.closing.filterMap Action.arrival? =
      i.injections.filterMap Injection.arrival? := by
    unfold closing injections
    cases i.wakeup with
    | failed reason => rfl
    | ready blockedMicros serial injected failure =>
      simp only [List.filterMap_append, filterMap_arrival?_map_treat, List.filterMap_cons,
        Action.arrival?, List.filterMap_nil, List.append_nil]
  unfold actions arrivals
  rw [List.filterMap_append, List.filterMap_append, hopening, hread, List.nil_append]
  cases i.read.failure? with
  | some error => rfl
  | none => rw [hclosing]

/-- The worker treats what comes in, in order, and nothing else. -/
theorem filterMap_arrival?_loopActions (s : Scanner) (iterations : List Iteration) :
    (loopActions s iterations).filterMap Action.arrival? = arrivals s iterations := by
  induction iterations generalizing s with
  | nil => rfl
  | cons i rest ih =>
    unfold loopActions arrivals
    rw [List.filterMap_append, i.filterMap_arrival?_actions]
    cases i.read.failure? with
    | some error => rfl
    | none => rw [ih]

theorem filterMap_arrival?_actions (s : Scanner) (now : Nat) (iterations : List Iteration) :
    (actions s now iterations).filterMap Action.arrival? = arrivals s iterations := by
  unfold actions
  simp only [List.cons_append, List.filterMap_cons, Action.arrival?, List.filterMap_append,
    filterMap_arrival?_loopActions, List.filterMap_nil, List.append_nil]

end VehicleLink.Downlink
