import VehicleLink.Proofs.Downlink.Batches
import VehicleLink.Proofs.Downlink.Isolation

/-!
# What waits while the gate is locked

While the safety gate is locked, the waiting frames are sent at once. The worker reads the gate at
the start of an iteration, but looks at it only where something for the primary controller comes in.
What waits from before the gate was locked is sent along with the first such arrival or at the
deadline, and until then it goes on waiting (`frames_iterate_of_locked`).
-/

namespace VehicleLink.Downlink

variable {net : Network} {w : Downlink}

/-! ## One arrival -/

theorem frames_fanOut (net : Network) (w : Downlink) (bytes : Bytes) (targets : Option Targets) :
    (w.fanOut net bytes targets).aggregate.frames = w.aggregate.frames :=
  congrArg Aggregate.frames (aggregate_fanOut net w bytes targets)

/-- Whatever is put into the aggregate, or is too long for it, all that waits is sent. -/
theorem frames_aggregateFrame_of_locked (hlocked : w.rcLocked = true) (bytes : Bytes)
    (micros : UInt64) : (w.aggregateFrame net bytes micros).aggregate.frames = [] := by
  -- Collecting may flush, but it does not read the gate.
  have hcollected : (w.collect net bytes micros).rcLocked = true :=
    collect_keeps net (P := fun v => v.rcLocked = true) (fun _ _ h => h)
      (fun v h => (congrArg Settings.rcLocked (settings_flush net v)).trans h) hlocked bytes micros
  have hflushes : (w.collect net bytes micros).flushesAtOnce = true := by
    rw [flushesAtOnce, hcollected, Bool.true_or]
  rw [aggregateFrame_eq, if_pos hflushes]
  exact frames_flush net _

/-- Under a locked gate an arrival for the primary controller takes along all that waits, and any
other leaves it waiting. -/
theorem frames_treat_of_locked (hlocked : w.rcLocked = true) (a : Arrival) :
    (w.treat net a).aggregate.frames =
      if forPrimary w.bulkIds [a] = [] then w.aggregate.frames else [] := by
  rw [treat_eq, frames_fanOut]
  cases hkind : a.isBulk w.bulkIds with
  | true =>
    rw [forPrimary_of_bulk hkind, if_pos rfl, if_pos rfl]
    exact congrArg (fun b : Books => b.aggregate.frames) (books_noted w a)
  | false =>
    have hlocked' : (w.noted a).rcLocked = true :=
      (congrArg Settings.rcLocked (settings_noted w a)).trans hlocked
    rw [forPrimary_of_not_bulk hkind, if_neg (by decide), if_neg (List.cons_ne_nil _ _)]
    exact frames_aggregateFrame_of_locked hlocked' a.bytes a.micros

/-! ## One iteration -/

/-- Whether an action belongs to what is done with input. -/
def Action.isInput : Action → Bool
  | .scan _ | .treat _ | .countNoise | .reportInjection _ | .publish => true
  | _ => false

theorem all_isInput_map_treat (arrivals : List Arrival) :
    (arrivals.map Action.treat).all Action.isInput = true := by
  rw [List.all_map]
  exact List.all_eq_true.2 fun _ _ => rfl

theorem SerialRead.all_isInput_actions (s : Scanner) (read : SerialRead) :
    (read.actions s).all Action.isInput = true := by
  unfold actions
  cases read.piece? with
  | none => rfl
  | some piece =>
    show ((_ :: (read.arrivals s).map Action.treat) ++ [_]).all _ = true
    rw [List.cons_append, List.all_cons, List.all_append, all_isInput_map_treat]
    rfl

theorem Iteration.all_isInput_closing (i : Iteration) : i.closing.all Action.isInput = true := by
  unfold closing
  cases i.wakeup with
  | failed reason => rfl
  | ready blockedMicros serial injected failure =>
    rw [List.all_append, all_isInput_map_treat]
    rfl

/-- After its opening an iteration deals with input only. -/
theorem Iteration.exists_input (s : Scanner) (i : Iteration) :
    ∃ input, i.actions s = i.opening ++ input ∧ input.all Action.isInput = true ∧
      input.filterMap Action.arrival? = i.arrivals s := by
  refine ⟨_, rfl, ?_, ?_⟩
  · rw [List.all_append, SerialRead.all_isInput_actions]
    cases i.read.failure? with
    | some error => rfl
    | none => exact i.all_isInput_closing
  · rw [← i.filterMap_arrival?_actions]
    unfold actions opening
    cases i.wakeup <;> rfl

/-- Input changes neither the gate as last read nor the bulk kinds. Under a locked gate, an arrival
for the primary controller takes along all that waits. -/
theorem perform_of_isInput (net : Network) {action : Action} (h : action.isInput = true)
    (hlocked : w.rcLocked = true) :
    (w.perform net action).rcLocked = true ∧ (w.perform net action).bulkIds = w.bulkIds ∧
      (w.perform net action).aggregate.frames =
        if forPrimary w.bulkIds action.arrival?.toList = [] then w.aggregate.frames else [] := by
  cases action with
  | scan | countNoise | reportInjection | publish => exact ⟨hlocked, rfl, rfl⟩
  | treat a =>
    have hsettings := settings_treat net w a
    exact ⟨(congrArg Settings.rcLocked hsettings).trans hlocked,
      congrArg Settings.bulkIds hsettings, frames_treat_of_locked hlocked a⟩
  | begin | readGate | meetDeadline | addBlocked | flush | finish => cases h

/-- Of actions on input, one arrival for the primary controller is enough. -/
theorem frames_performAll_of_locked {actions : List Action} (hlocked : w.rcLocked = true)
    (hinput : actions.all Action.isInput = true) :
    (w.performAll net actions).aggregate.frames =
      if forPrimary w.bulkIds (actions.filterMap Action.arrival?) = [] then w.aggregate.frames
      else [] := by
  induction actions generalizing w with
  | nil => rfl
  | cons action rest ih =>
    rw [List.all_cons, Bool.and_eq_true] at hinput
    obtain ⟨hgate, hbulkIds, hframes⟩ := perform_of_isInput net hinput.1 hlocked
    rw [performAll_cons, ih hgate hinput.2, hbulkIds, hframes, filterMap_arrival?_cons]
    simp only [forPrimary_append, List.append_eq_nil_iff]
    by_cases hfirst : forPrimary w.bulkIds action.arrival?.toList = [] <;> simp [hfirst]

/-- At the end of an iteration in which the gate was locked nothing waits, if the deadline was met
in it or something for the primary controller came in. Otherwise the same waits as before. -/
theorem frames_iterate_of_locked {i : Iteration} (hgate : i.gate = true) :
    (w.iterate net i).1.aggregate.frames =
      if w.nextFlush ≤ i.now ∨ forPrimary w.bulkIds (i.arrivals w.scanner) ≠ [] then []
      else w.aggregate.frames := by
  let opened := w.performAll net i.opening
  -- What is done before there is input.
  have hopened : opened.rcLocked = true ∧ opened.bulkIds = w.bulkIds ∧
      opened.aggregate.frames = if w.nextFlush ≤ i.now then [] else w.aggregate.frames := by
    have hdeadline (v : Downlink) (hv : v.rcLocked = true) :
        (v.meetDeadline net i.now).rcLocked = true ∧
        (v.meetDeadline net i.now).bulkIds = v.bulkIds ∧
        (v.meetDeadline net i.now).aggregate.frames =
          if v.nextFlush ≤ i.now then [] else v.aggregate.frames := by
      unfold meetDeadline
      have hsettings := settings_flush net v
      split
      · exact ⟨(congrArg Settings.rcLocked hsettings).trans hv, congrArg Settings.bulkIds hsettings,
          frames_flush net v⟩
      · exact ⟨hv, rfl, rfl⟩
    have hmet := hdeadline { w with rcLocked := i.gate } hgate
    unfold opened Iteration.opening
    cases i.wakeup <;> exact hmet
  obtain ⟨hlocked, hbulkIds, hframes⟩ := hopened
  obtain ⟨input, hactions, hinput, harrivals⟩ := i.exists_input w.scanner
  have hiterate : (w.iterate net i).1 = opened.performAll net input := by
    rw [iterate_eq_performAll, hactions]
    exact performAll_append net w i.opening input
  -- What remains are the four cases of the deadline met or not and something arriving or not.
  rw [hiterate, frames_performAll_of_locked hlocked hinput, hbulkIds, harrivals, hframes]
  by_cases hdue : w.nextFlush ≤ i.now <;>
    by_cases hnone : forPrimary w.bulkIds (i.arrivals w.scanner) = [] <;> simp [hdue, hnone]

/-! ## Any iteration of a run -/

/-- **A locked gate empties the aggregate where it is looked at.** Let the gate be locked in an
iteration of a run. If the deadline is met in it, or if anything for the primary controller comes
in, nothing waits at its end; but if neither is the case, then what waited before goes on waiting.
Either way, what was handed to the socket for the primary controller in batches, and then what
waits, is all that has come in so far and is no bulk data, in order, but for what is longer than any
batch. -/
theorem waiting_under_locked_gate (c : Config) (state : State) (hstate : state.directory.Reachable)
    (created : Nat) (net : Network) (started : Nat) {earlier : List Iteration}
    (hcontinues : failure? earlier = none) {i : Iteration} (hgate : i.gate = true) :
    let w := (((start c state created).perform net (.begin started)).loop net earlier).1
    let v := (w.iterate net i).1
    v.aggregate.frames =
        (if w.nextFlush ≤ i.now ∨
            forPrimary c.bulkTransferIds (i.arrivals (scannerAfter {} earlier)) ≠ [] then []
          else w.aggregate.frames) ∧
      ∃ batches : List (List Bytes),
        batches.flatten ++ v.aggregate.frames =
            collected c.bulkTransferIds c.aggregateMaxPayload.toNat (arrivals {} (earlier ++ [i])) ∧
          Aggregate.Batched c.aggregateMaxPayload.toNat batches
            (datagramsTo state.primary v.sent) := by
  intro w v
  let begun := (start c state created).perform net (.begin started)
  have hscanner : w.scanner = scannerAfter {} earlier := scanner_loop net begun hcontinues
  have hledger : Ledger c.bulkTransferIds state.primary
      (min c.aggregateMaxPayload.toNat Aggregate.maxLimit)
      (collected c.bulkTransferIds (min c.aggregateMaxPayload.toNat Aggregate.maxLimit)
        (arrivals {} earlier)) w.books := by
    have hstart : Ledger c.bulkTransferIds state.primary
        (min c.aggregateMaxPayload.toNat Aggregate.maxLimit) [] (start c state created).books :=
      ledger_start c hstate created
    have hearlier :
        Ledger _ _ _ _ (performAll net _ (.begin started :: loopActions {} earlier)).books :=
      hstart.performAll _
    rw [filterMap_arrival?_cons, filterMap_arrival?_loopActions, performAll_cons] at hearlier
    show Ledger _ _ _ _ (begun.loop net earlier).1.books
    rw [loop_eq_performAll]
    exact hearlier
  refine ⟨?_, ?_⟩
  · have hbulkIds : w.bulkIds = c.bulkTransferIds := hledger.bulkIds_eq
    rw [← hscanner, ← hbulkIds]
    exact frames_iterate_of_locked hgate
  · have hafter : Ledger _ _ _ _ (w.performAll net (i.actions w.scanner)).books :=
      hledger.performAll _
    -- The iteration is the last one that is looked at, whether or not it ends the loop.
    have harrivals :
        arrivals {} (earlier ++ [i]) = arrivals {} earlier ++ i.arrivals w.scanner := by
      rw [arrivals_append hcontinues, ← hscanner]
      show _ ++ (i.arrivals w.scanner ++ _) = _
      cases i.read.failure? with
      | some error => rw [List.append_nil]
      | none => rw [arrivals, List.append_nil]
    rw [i.filterMap_arrival?_actions, ← collected_append, ← harrivals] at hafter
    have hv : v = w.performAll net (i.actions w.scanner) :=
      congrArg Prod.fst (iterate_eq_performAll net w i)
    rw [hv]
    exact hafter.exists_batches fun a ha => length_le_injectLength_of_mem_arrivals ha

/-- A frame comes in while the gate is open. -/
def openIteration : Iteration :=
  ⟨false, 0, .ready 10 (some (.received shortFrame 7)) [] none⟩

/-- The gate is locked, and another frame comes in. -/
def lockedIteration : Iteration :=
  ⟨true, 5, .ready 0 (some (.received signedFrame 9)) [] none⟩

theorem both_sent_under_locked_gate :
    (Directory.empty (.v4 ⟨10, 0, 0, 1⟩ 14550) 10).Reachable ∧ failure? [openIteration] = none ∧
      lockedIteration.gate = true ∧
      let w := (((start {} (.empty (.v4 ⟨10, 0, 0, 1⟩ 14550) 10) 0).perform hesitantNetwork
        (.begin 0)).loop hesitantNetwork [openIteration]).1
      let v := (w.iterate hesitantNetwork lockedIteration).1
      w.aggregate.frames = [shortFrame] ∧ v.aggregate.frames = [] ∧
        ∃ batches : List (List Bytes), batches.flatten = [shortFrame, signedFrame] ∧
          Aggregate.Batched 1024 batches (datagramsTo (.v4 ⟨10, 0, 0, 1⟩ 14550) v.sent) := by
  have hreachable : (Directory.empty (.v4 ⟨10, 0, 0, 1⟩ 14550) 10).Reachable := ⟨_, _, [], rfl⟩
  have harrivals : collected MessageKind.bulk 1024 (arrivals {} [openIteration, lockedIteration]) =
      [shortFrame, signedFrame] := by decide +kernel
  have harrived : forPrimary MessageKind.bulk
      (lockedIteration.arrivals (scannerAfter {} [openIteration])) ≠ [] := by decide +kernel
  obtain ⟨hframes, batches, hbatches, hbatched⟩ := waiting_under_locked_gate {}
    (.empty (.v4 ⟨10, 0, 0, 1⟩ 14550) 10) hreachable 0 hesitantNetwork 0
    (show failure? [openIteration] = none from rfl) (show lockedIteration.gate = true from rfl)
  rw [if_pos (Or.inr harrived)] at hframes
  rw [hframes, List.append_nil] at hbatches
  exact ⟨hreachable, rfl, rfl, by decide +kernel, hframes, batches,
    hbatches.trans harrivals, hbatched⟩

/-- The gate is locked while a frame waits, and nothing comes in. The frame goes on waiting. -/
theorem frame_waits_under_locked_gate :
    let w := (((start {} (.empty (.v4 ⟨10, 0, 0, 1⟩ 14550) 10) 0).perform hesitantNetwork
      (.begin 0)).loop hesitantNetwork [openIteration]).1
    failure? [openIteration] = none ∧
      (w.iterate hesitantNetwork ⟨true, 5, .ready 0 none [] none⟩).1.aggregate.frames =
        [shortFrame] := by
  decide +kernel

end VehicleLink.Downlink
