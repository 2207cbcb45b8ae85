import VehicleLink.Proofs.Downlink.LockedGate

/-!
# How long a frame waits at most

A deadline is looked at once in each iteration, right after the gate, and nothing else that is done
in an iteration moves it (`Iteration.exists_rest`): a batch that is sent early, for want of room or
under a locked gate, does not. It is never further away than one interval from the time at which it
was looked at (`nextFlush_loop_le`), and always beyond that time. So what is left in the aggregate
by an iteration is sent at the start of the first iteration that comes at its deadline or later,
whatever comes in between (`flush_deadlines_kept`).
-/

namespace VehicleLink.Downlink

/-- What is done at the start of an iteration, up to the look at the deadline. -/
def Iteration.check (i : Iteration) : List Action := [.readGate i.gate, .meetDeadline i.now]

/-- Whether an action can move the deadline. -/
def Action.movesDeadline : Action → Bool
  | .begin _ | .meetDeadline _ => true
  | _ => false

/-- The times at which a deadline was met while the actions were taken. -/
def deadlinesMet (net : Network) (w : Downlink) : List Action → List Nat
  | [] => []
  | action :: rest =>
    -- Flushes for other reasons do not count, even if they happen to come at a deadline.
    (match action with
      | .meetDeadline now => if w.nextFlush ≤ now then [now] else []
      | _ => []) ++ deadlinesMet net (w.perform net action) rest

variable {net : Network} {w : Downlink}

/-! ## One look at the deadline -/

theorem meetDeadline_of_lt {now : Nat} (h : now < w.nextFlush) : w.meetDeadline net now = w :=
  if_neg (Nat.not_le.2 h)

/-- A deadline that has come is moved on from where it was. -/
theorem nextFlush_meetDeadline (net : Network) (w : Downlink) (now : Nat) :
    (w.meetDeadline net now).nextFlush =
      if w.nextFlush ≤ now then Deadline.advance w.flushInterval w.nextFlush now
      else w.nextFlush := by
  have hinterval : (w.flush net).flushInterval = w.flushInterval :=
    congrArg Settings.flushInterval (settings_flush net w)
  have hdeadline : (w.flush net).nextFlush = w.nextFlush :=
    congrArg Settings.nextFlush (settings_flush net w)
  unfold meetDeadline
  split
  · show Deadline.advance (w.flush net).flushInterval (w.flush net).nextFlush now = _
    rw [hinterval, hdeadline]
  · rfl

theorem frames_meetDeadline {now : Nat} (h : w.nextFlush ≤ now) :
    (w.meetDeadline net now).aggregate.frames = [] := by
  unfold meetDeadline
  rw [if_pos h]
  exact frames_flush net w

/-- Meeting a deadline hands over one datagram at most. -/
theorem size_sent_meetDeadline_le (net : Network) (w : Downlink) (now : Nat) :
    (w.meetDeadline net now).sent.size ≤ w.sent.size + 1 := by
  have hflush : (w.flush net).sent.size ≤ w.sent.size + 1 := by
    by_cases hframes : w.aggregate.frames = []
    · rw [flush_of_eq_nil net hframes]
      exact Nat.le_succ _
    · have hsent := congrArg (fun b : Books => b.sent.size) (books_flush_of_ne_nil net hframes)
      exact Nat.le_of_eq (hsent.trans (Array.size_push _))
  unfold meetDeadline
  split
  · exact hflush
  · exact Nat.le_succ _

/-! ## The deadline during a run -/

theorem nextFlush_perform {action : Action} (h : action.movesDeadline = false) :
    (w.perform net action).nextFlush = w.nextFlush := by
  cases action with
  | begin | meetDeadline => cases h
  | readGate | addBlocked | scan | countNoise | reportInjection | publish | finish => rfl
  | treat a => exact congrArg Settings.nextFlush (settings_treat net w a)
  | flush => exact congrArg Settings.nextFlush (settings_flush net w)

theorem nextFlush_performAll {actions : List Action}
    (h : ∀ action ∈ actions, action.movesDeadline = false) :
    (w.performAll net actions).nextFlush = w.nextFlush := by
  induction actions generalizing w with
  | nil => rfl
  | cons action rest ih =>
    obtain ⟨hfirst, hrest⟩ := List.forall_mem_cons.1 h
    exact (ih hrest).trans (nextFlush_perform hfirst)

theorem deadlinesMet_of_still {actions : List Action}
    (h : ∀ action ∈ actions, action.movesDeadline = false) : deadlinesMet net w actions = [] := by
  induction actions generalizing w with
  | nil => rfl
  | cons action rest ih =>
    obtain ⟨hfirst, hrest⟩ := List.forall_mem_cons.1 h
    cases action with
    | begin | meetDeadline => cases hfirst
    | _ => exact ih hrest

/-- After the look at the deadline nothing that is done in an iteration moves it. -/
theorem Iteration.exists_rest (s : Scanner) (i : Iteration) :
    ∃ rest, i.actions s = i.check ++ rest ∧ ∀ action ∈ rest, action.movesDeadline = false := by
  -- What an iteration does with its input is neither a beginning nor a look at the deadline.
  have hstill {action : Action} (h : action.isInput = true) : action.movesDeadline = false := by
    cases action <;> first | rfl | cases h
  obtain ⟨input, hactions, hinput, -⟩ := i.exists_input s
  have hrest : ∀ action ∈ input, action.movesDeadline = false :=
    fun action hmem => hstill (List.all_eq_true.1 hinput action hmem)
  rw [hactions]
  unfold opening check
  cases i.wakeup with
  | failed reason => exact ⟨input, rfl, hrest⟩
  | ready blockedMicros serial injected failure =>
    exact ⟨.addBlocked blockedMicros :: input, rfl, List.forall_mem_cons.2 ⟨rfl, hrest⟩⟩

/-- In an iteration the deadline is moved at its look, or not at all. -/
theorem nextFlush_iterate (net : Network) (w : Downlink) (i : Iteration) :
    (w.performAll net (i.actions w.scanner)).nextFlush =
      if w.nextFlush ≤ i.now then Deadline.advance w.flushInterval w.nextFlush i.now
      else w.nextFlush := by
  obtain ⟨rest, hactions, hstill⟩ := i.exists_rest w.scanner
  rw [hactions, performAll_append, nextFlush_performAll hstill]
  exact nextFlush_meetDeadline net { w with rcLocked := i.gate } i.now

theorem flushInterval_iterate (net : Network) (w : Downlink) (i : Iteration) :
    (w.performAll net (i.actions w.scanner)).flushInterval = w.flushInterval := by
  obtain ⟨_, _, hsettings⟩ := settings_performAll_iteration net w i
  exact congrArg Settings.flushInterval hsettings

/-- The deadline is never further away than one interval from the latest time at which it was looked
at. -/
theorem nextFlush_loop_le {latest : Nat} (h : w.nextFlush ≤ latest + w.flushInterval)
    {iterations : List Iteration} (hlatest : ∀ i ∈ iterations, i.now ≤ latest) :
    (w.loop net iterations).1.nextFlush ≤ latest + w.flushInterval := by
  -- The bound holds for one iteration as well: either the deadline is moved from its own time, or
  -- it stays.
  have hstep (v : Downlink) (i : Iteration) (hi : i ∈ iterations)
      (hv : v.flushInterval = w.flushInterval ∧ v.nextFlush ≤ latest + w.flushInterval) :
      (v.performAll net (i.actions v.scanner)).flushInterval = w.flushInterval ∧
        (v.performAll net (i.actions v.scanner)).nextFlush ≤ latest + w.flushInterval := by
    refine ⟨(flushInterval_iterate net v i).trans hv.1, ?_⟩
    rw [nextFlush_iterate, hv.1]
    split
    · rename_i hdue
      exact Nat.le_trans (Deadline.advance_le hdue) (Nat.add_le_add_right (hlatest i hi) _)
    · exact hv.2
  exact (loop_keeps net w hstep ⟨rfl, h⟩).2

/-- Before its time has come a deadline stays. -/
theorem nextFlush_loop_of_lt {iterations : List Iteration}
    (hearly : ∀ i ∈ iterations, i.now < w.nextFlush) :
    (w.loop net iterations).1.nextFlush = w.nextFlush := by
  refine loop_keeps net w (P := fun v => v.nextFlush = w.nextFlush) (fun v i hi hv => ?_) rfl
  rw [nextFlush_iterate, hv, if_neg (Nat.not_le.2 (hearly i hi))]

/-- At most one deadline is met in an iteration, the one that is looked at. -/
theorem deadlinesMet_iterate (net : Network) (w : Downlink) (i : Iteration) :
    deadlinesMet net w (i.actions w.scanner) = if w.nextFlush ≤ i.now then [i.now] else [] := by
  obtain ⟨rest, hactions, hstill⟩ := i.exists_rest w.scanner
  rw [hactions]
  show [] ++ ((if w.nextFlush ≤ i.now then [i.now] else []) ++ deadlinesMet net _ rest) = _
  rw [deadlinesMet_of_still hstill, List.append_nil, List.nil_append]

/-! ## Frames that are left behind -/

/-- Nothing waits any more, and the batches that were handed over for the primary controller begin
with these frames. -/
structure HandedOver (limit : Nat) (primary : SocketAddress) (frames : List Bytes) (w : Downlink) :
    Prop where
  nothing_waits : w.aggregate.frames = []
  batched : ∃ batches : List (List Bytes), frames <+: batches.flatten ∧
    Aggregate.Batched limit batches (datagramsTo primary w.sent)

/-- If nothing waits, the ledger says what has been handed over. -/
theorem HandedOver.of_ledger {bulkIds : List UInt32} {primary : SocketAddress} {limit : Nat}
    {arrived : List Arrival} {frames : List Bytes}
    (hledger : Ledger bulkIds primary (min limit Aggregate.maxLimit)
      (collected bulkIds (min limit Aggregate.maxLimit) arrived) w.books)
    (harrived : ∀ a ∈ arrived, a.bytes.length ≤ injectLength)
    (hframes : frames <+: collected bulkIds limit arrived) (hnothing : w.aggregate.frames = []) :
    HandedOver limit primary frames w := by
  obtain ⟨batches, hbatches, hbatched⟩ := hledger.exists_batches harrived
  rw [hnothing, List.append_nil] at hbatches
  exact ⟨hnothing, batches, hbatches ▸ hframes, hbatched⟩

/-- Up to an iteration that comes at the deadline or later, the deadline is the one that an earlier
iteration left. -/
theorem frames_check_of_due {i j : Iteration} {between : List Iteration}
    (hcontinues : i.read.failure? = none)
    (hearly : ∀ b ∈ between, b.now < (w.iterate net i).1.nextFlush)
    (hdue : (w.iterate net i).1.nextFlush ≤ j.now) :
    ((w.loop net (i :: between)).1.performAll net j.check).aggregate.frames = [] := by
  rw [iterate_eq_performAll] at hearly hdue
  have hdeadline : (w.loop net (i :: between)).1.nextFlush ≤ j.now := by
    rw [loop_cons_of_success net w hcontinues, nextFlush_loop_of_lt hearly]
    exact hdue
  exact frames_meetDeadline (w := { (w.loop net (i :: between)).1 with rcLocked := j.gate })
    hdeadline

/-- What an iteration leaves behind is handed over at the start of the first iteration that comes at
the deadline or later, and in any case at the end of the run. -/
theorem left_behind_handed_over (c : Config) {state : State} (hstate : state.directory.Reachable)
    (created : Nat) (net : Network) (started : Nat) {earlier : List Iteration}
    (hcontinues : failure? earlier = none) (i : Iteration) :
    let limit := c.aggregateMaxPayload.toNat
    let begun := (start c state created).perform net (.begin started)
    let v := ((begun.loop net earlier).1.iterate net i).1
    ∃ before : List (List Bytes),
      before.flatten ++ v.aggregate.frames =
        collected c.bulkTransferIds limit (arrivals {} (earlier ++ [i])) ∧
      Aggregate.Batched limit before (datagramsTo state.primary v.sent) ∧
      (∀ (between : List Iteration) (j : Iteration), failure? (i :: between) = none →
        (∀ b ∈ between, b.now < v.nextFlush) → v.nextFlush ≤ j.now →
          HandedOver limit state.primary (before.flatten ++ v.aggregate.frames)
            ((begun.loop net (earlier ++ i :: between)).1.performAll net j.check)) ∧
      ∀ later, HandedOver limit state.primary (before.flatten ++ v.aggregate.frames)
        ((start c state created).run net started (earlier ++ i :: later)).1 := by
  intro limit begun v
  -- A run can be cut behind the earlier iterations, none of which ends it.
  have hloop (between : List Iteration) : (begun.loop net (earlier ++ i :: between)).1 =
      ((begun.loop net earlier).1.loop net (i :: between)).1 :=
    congrArg Prod.fst (loop_append net begun hcontinues _)
  have hledger : Ledger c.bulkTransferIds state.primary (min limit Aggregate.maxLimit)
      (collected c.bulkTransferIds (min limit Aggregate.maxLimit) (arrivals {} (earlier ++ [i])))
      v.books := by
    have hlast : (begun.loop net (earlier ++ [i])).1 = v :=
      (hloop []).trans (loop_singleton net _ i)
    rw [← hlast]
    exact ledger_loop c hstate created net started (earlier ++ [i])
  obtain ⟨before, hbefore, hbatched⟩ :=
    hledger.exists_batches fun a ha => length_le_injectLength_of_mem_arrivals ha
  -- What comes in later comes behind this, so that the batches begin with it.
  have hbegins (later : List Iteration) : before.flatten ++ v.aggregate.frames <+:
      collected c.bulkTransferIds limit (arrivals {} (earlier ++ i :: later)) := by
    rw [hbefore]
    exact collected_mono _ _ (prefix_arrivals_append_cons hcontinues {} i later)
  refine ⟨before, hbefore, hbatched, ?_, ?_⟩
  · intro between j hgoesOn hearly hdue
    have hreached : Ledger _ _ _ _
        ((begun.loop net (earlier ++ i :: between)).1.performAll net j.check).books :=
      (ledger_loop c hstate created net started (earlier ++ i :: between)).performAll j.check
    have hcheck : j.check.filterMap Action.arrival? = [] := rfl
    rw [← collected_append, hcheck, List.append_nil] at hreached
    refine HandedOver.of_ledger hreached (fun a ha => length_le_injectLength_of_mem_arrivals ha)
      (hbegins between) ?_
    show ((begun.loop net (earlier ++ i :: between)).1.performAll net j.check).aggregate.frames = []
    rw [hloop]
    exact frames_check_of_due (Option.or_eq_none_iff.1 hgoesOn).1 hearly hdue
  · intro later
    have hran : Ledger c.bulkTransferIds state.primary (min limit Aggregate.maxLimit)
        (collected c.bulkTransferIds (min limit Aggregate.maxLimit)
          (arrivals {} (earlier ++ i :: later)))
        ((start c state created).run net started (earlier ++ i :: later)).1.books :=
      (ledger_start c hstate created).run_collected started (earlier ++ i :: later)
    exact HandedOver.of_ledger hran (fun a ha => length_le_injectLength_of_mem_arrivals ha)
      (hbegins later) (frames_run net _ started _)

/-! ## The theorem -/

/-- **Deadlines neither drift nor starve nor bunch up.** Take any iteration of a run whose times do
not go back, whatever was done before it. Once it has looked at the deadline, the deadline lies
ahead, no more than one interval from now, and stays where it is for the rest of the iteration. If
the deadline had not come, it is the one from before and nothing was sent; if it had come, nothing
waits, at most one datagram was sent, and the deadline moved by one interval if it was met less than
one interval late and is one interval from now otherwise. No other deadline is met in the iteration.

What waits at the end of the iteration has been handed over, in its place behind all that was handed
over before, once the first iteration that comes at that deadline or later has looked at it, and in
any case at the end of the run. -/
theorem flush_deadlines_kept (c : Config) (hinterval : 0 < c.flushInterval) (state : State)
    (hstate : state.directory.Reachable) (created : Nat) (net : Network) (started : Nat)
    {earlier : List Iteration} (hcontinues : failure? earlier = none) (i : Iteration)
    (htimes : (started :: (earlier ++ [i]).map Iteration.now).Pairwise (· ≤ ·)) :
    let limit := c.aggregateMaxPayload.toNat
    let begun := (start c state created).perform net (.begin started)
    let w := (begun.loop net earlier).1
    let checked := w.performAll net i.check
    let v := (w.iterate net i).1
    (i.now < checked.nextFlush ∧ checked.nextFlush ≤ i.now + c.flushInterval ∧
      v.nextFlush = checked.nextFlush ∧
      ∀ done more, i.actions w.scanner = i.check ++ (done ++ more) →
        (checked.performAll net done).nextFlush = checked.nextFlush) ∧
    (i.now < w.nextFlush → checked.nextFlush = w.nextFlush ∧ checked.sent = w.sent) ∧
    (w.nextFlush ≤ i.now →
      checked.aggregate.frames = [] ∧ checked.sent.size ≤ w.sent.size + 1 ∧
      (i.now < w.nextFlush + c.flushInterval →
        checked.nextFlush = w.nextFlush + c.flushInterval) ∧
      (w.nextFlush + c.flushInterval ≤ i.now → checked.nextFlush = i.now + c.flushInterval)) ∧
    deadlinesMet net w (i.actions w.scanner) = (if w.nextFlush ≤ i.now then [i.now] else []) ∧
    ∃ before : List (List Bytes),
      before.flatten ++ v.aggregate.frames =
        collected c.bulkTransferIds limit (arrivals {} (earlier ++ [i])) ∧
      Aggregate.Batched limit before (datagramsTo state.primary v.sent) ∧
      (∀ (between : List Iteration) (j : Iteration), failure? (i :: between) = none →
        (∀ b ∈ between, b.now < v.nextFlush) → v.nextFlush ≤ j.now →
          HandedOver limit state.primary (before.flatten ++ v.aggregate.frames)
            ((begun.loop net (earlier ++ i :: between)).1.performAll net j.check)) ∧
      ∀ later, HandedOver limit state.primary (before.flatten ++ v.aggregate.frames)
        ((start c state created).run net started (earlier ++ i :: later)).1 := by
  intro limit begun w checked v
  -- All that is needed of the times: none of the earlier ones, the start included, is later than
  -- this one.
  rw [List.pairwise_cons, List.map_append, List.map_singleton, List.pairwise_append] at htimes
  obtain ⟨hstarted, -, -, hearlier⟩ := htimes
  have hnow : ∀ j ∈ earlier, j.now ≤ i.now :=
    fun j hj => hearlier j.now (List.mem_map_of_mem hj) i.now List.mem_cons_self
  have hfirst : started ≤ i.now :=
    hstarted i.now (List.mem_append_right _ List.mem_cons_self)
  have hflushInterval : w.flushInterval = c.flushInterval :=
    loop_keeps net begun (P := fun v => v.flushInterval = c.flushInterval)
      (fun v j _ hv => (flushInterval_iterate net v j).trans hv) rfl
  have hbound : w.nextFlush ≤ i.now + c.flushInterval :=
    nextFlush_loop_le (w := begun) (Nat.add_le_add_right hfirst c.flushInterval) hnow
  have hchecked : checked.nextFlush =
      if w.nextFlush ≤ i.now then Deadline.advance c.flushInterval w.nextFlush i.now
      else w.nextFlush := by
    rw [← hflushInterval]
    exact nextFlush_meetDeadline net { w with rcLocked := i.gate } i.now
  have hv : v = w.performAll net (i.actions w.scanner) :=
    congrArg Prod.fst (iterate_eq_performAll net w i)
  obtain ⟨rest, hactions, hstill⟩ := i.exists_rest w.scanner
  have hkept : v.nextFlush = checked.nextFlush := by
    rw [hv, hactions, performAll_append, nextFlush_performAll hstill]
  refine ⟨⟨?_, ?_, hkept, ?_⟩, ?_, ?_, deadlinesMet_iterate net w i, ?_⟩
  · rw [hchecked]
    split
    · exact Deadline.lt_advance hinterval _ _
    · rename_i hearly
      exact Nat.lt_of_not_le hearly
  · rw [hchecked]
    split
    · rename_i hdue
      exact Deadline.advance_le hdue
    · exact hbound
  -- The rest of the iteration is all of it still, and so is the front of that.
  · intro done more hsplit
    refine nextFlush_performAll fun action hmem => hstill action ?_
    rw [hactions] at hsplit
    rw [List.append_cancel_left hsplit]
    exact List.mem_append_left more hmem
  · intro hearly
    have hunmet : checked = { w with rcLocked := i.gate } :=
      meetDeadline_of_lt (w := { w with rcLocked := i.gate }) hearly
    rw [hunmet]
    exact ⟨rfl, rfl⟩
  · intro hdue
    rw [hchecked, if_pos hdue]
    exact ⟨frames_meetDeadline (w := { w with rcLocked := i.gate }) hdue,
      size_sent_meetDeadline_le net { w with rcLocked := i.gate } i.now,
      fun hnear => if_neg (Nat.not_le.2 hnear), fun hfar => if_pos hfar⟩
  · exact left_behind_handed_over c hstate created net started hcontinues i

/-- A frame comes in at the given time. -/
def frameAt (now : Nat) : Iteration :=
  ⟨false, now, .ready 10 (some (.received shortFrame 7)) [] none⟩

/-- Nothing comes in at the given time. -/
def quietAt (now : Nat) : Iteration := ⟨false, now, .ready 10 none [] none⟩

/-- The first deadline, at a tenth of a second, is met one interval late, so that the next one is at
three tenths. The frame that came in is sent exactly then. -/
theorem sent_at_three_tenths :
    let c : Config := {}
    let primary : SocketAddress := .v4 ⟨10, 0, 0, 1⟩ 14550
    let begun := (start c (.empty primary 10) 0).perform hesitantNetwork (.begin 0)
    let v := ((begun.loop hesitantNetwork []).1.iterate hesitantNetwork (frameAt 200000000)).1
    0 < c.flushInterval ∧ (Directory.empty primary 10).Reachable ∧
      (0 :: ([] ++ [frameAt 200000000]).map Iteration.now).Pairwise (· ≤ ·) ∧
      v.nextFlush = 300000000 ∧ v.aggregate.frames = [shortFrame] ∧
      ∃ before : List (List Bytes),
        HandedOver 1024 primary (before.flatten ++ [shortFrame])
          ((begun.loop hesitantNetwork
            ([] ++ frameAt 200000000 :: [quietAt 299999999])).1.performAll
              hesitantNetwork (quietAt 300000000).check) := by
  intro c primary begun v
  have hreachable : (Directory.empty primary 10).Reachable := ⟨_, _, [], rfl⟩
  have hinterval : 0 < c.flushInterval := by decide
  have htimes : (0 :: ([] ++ [frameAt 200000000]).map Iteration.now).Pairwise (· ≤ ·) := by decide
  obtain ⟨⟨-, -, hkept, -⟩, -, hmet, -, before, -, -, hreached, -⟩ :=
    flush_deadlines_kept c hinterval
    (.empty primary 10) hreachable 0 hesitantNetwork 0 (show failure? [] = none from rfl)
    (frameAt 200000000) htimes
  obtain ⟨-, -, -, hfar⟩ := hmet (by decide +kernel)
  -- The deadline at a tenth was met at two tenths, one interval late.
  have hsum : (frameAt 200000000).now + c.flushInterval = 300000000 := by decide +kernel
  have hdeadline : v.nextFlush = 300000000 :=
    (hkept.trans (hfar (by decide +kernel))).trans hsum
  have hframes : v.aggregate.frames = [shortFrame] := by decide +kernel
  have hhanded := hreached [quietAt 299999999] (quietAt 300000000) rfl
  rw [hdeadline, hframes] at hhanded
  exact ⟨hinterval, hreachable, htimes, hdeadline, hframes, before,
    hhanded (by decide) (Nat.le_refl _)⟩

end VehicleLink.Downlink
