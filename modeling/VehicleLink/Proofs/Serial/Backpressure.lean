import VehicleLink.Serial.Backpressure

/-!
# How waiting for room ends

After a look at the output buffer that was answered, showed too little room and did not come too
late, the relay goes on waiting (`GoesOn`). Every other look ends it, in one of three ways (`Ends`).
So the first look that does not go on decides what waiting comes to (`waitFrom_cases`), and if there
is one, waiting does come to something (`wait_eq_iff`).
-/

namespace VehicleLink.Backpressure

/-- There is no room yet, and there is time left. -/
def GoesOn (b : Backpressure) (needed : Nat) (poll : QueuePoll) : Prop :=
  ∃ queued, poll.reading = .bytes queued ∧ b.capacity - queued < needed ∧ poll.elapsed < b.timeout

/-- How a look ends the waiting. `waited` tells whether there was a look before. Room is room, also
when the time is up. -/
inductive Ends (b : Backpressure) (needed : Nat) (waited : Bool) :
    QueuePoll → WaitOutcome → Prop where
  | failed (reason : String) (elapsed : Nat) :
      b.Ends needed waited ⟨.failed reason, elapsed⟩ (.failed reason)
  | room (queued elapsed : Nat) (hroom : needed ≤ b.capacity - queued) :
      b.Ends needed waited ⟨.bytes queued, elapsed⟩ (.ready waited)
  | late (queued elapsed : Nat) (hfull : b.capacity - queued < needed)
      (htime : b.timeout ≤ elapsed) :
      b.Ends needed waited ⟨.bytes queued, elapsed⟩ (.stalled elapsed queued)

/-- One look: the waiting goes on with the next ones, or it has ended. -/
theorem waitFrom_cons (b : Backpressure) (needed : Nat) (waited : Bool) (poll : QueuePoll)
    (polls : List QueuePoll) :
    (b.GoesOn needed poll ∧ b.waitFrom needed waited (poll :: polls) =
      ((b.waitFrom needed true polls).1, poll.reading :: (b.waitFrom needed true polls).2)) ∨
    ∃ outcome, b.Ends needed waited poll outcome ∧
      b.waitFrom needed waited (poll :: polls) = (outcome, [poll.reading]) := by
  -- The order of the tests: the line has to answer, then there is room or not, and only then does
  -- the time matter.
  obtain ⟨reading, elapsed⟩ := poll
  cases reading with
  | failed reason => exact Or.inr ⟨_, .failed reason elapsed, rfl⟩
  | bytes queued =>
    by_cases hroom : needed ≤ b.capacity - queued
    · refine Or.inr ⟨_, .room queued elapsed hroom, ?_⟩
      rw [waitFrom, hasRoom, if_pos (decide_eq_true hroom)]
    · have hfull : ¬b.hasRoom queued needed = true := fun h => hroom (of_decide_eq_true h)
      by_cases htime : b.timeout ≤ elapsed
      · refine Or.inr ⟨_, .late queued elapsed (Nat.lt_of_not_le hroom) htime, ?_⟩
        rw [waitFrom, if_neg hfull, if_pos htime]
      · refine Or.inl ⟨⟨queued, rfl, Nat.lt_of_not_le hroom, Nat.lt_of_not_le htime⟩, ?_⟩
        rw [waitFrom, if_neg hfull, if_neg htime]

/-- Either all looks go on, and the relay still waits; or one of them is the first that does not,
and it ends the waiting. The line was asked up to it. -/
theorem waitFrom_cases (b : Backpressure) (needed : Nat) (waited : Bool) (polls : List QueuePoll) :
    ((∀ poll ∈ polls, b.GoesOn needed poll) ∧
      b.waitFrom needed waited polls = (.pending, polls.map QueuePoll.reading)) ∨
    ∃ earlier poll later outcome, polls = earlier ++ poll :: later ∧
      (∀ before ∈ earlier, b.GoesOn needed before) ∧
      b.Ends needed (waited || !earlier.isEmpty) poll outcome ∧
      b.waitFrom needed waited polls = (outcome, (earlier ++ [poll]).map QueuePoll.reading) := by
  -- On the looks. Whether there was one before changes with the first, so it is generalized.
  induction polls generalizing waited with
  | nil => exact Or.inl ⟨fun _ hmem => (List.not_mem_nil hmem).elim, rfl⟩
  | cons poll polls ih =>
    rcases b.waitFrom_cons needed waited poll polls with ⟨hgoes, heq⟩ | ⟨outcome, hends, heq⟩
    · rcases ih true with ⟨hall, hrest⟩ | ⟨earlier, last, later, outcome, rfl, hall, hends, hrest⟩
      · rw [heq, hrest]
        exact Or.inl ⟨List.forall_mem_cons.2 ⟨hgoes, hall⟩, rfl⟩
      · rw [heq, hrest]
        -- There was a look before, be it before all of these or the first of them.
        have hwaited : (waited || !(poll :: earlier).isEmpty) = (true || !earlier.isEmpty) := by
          rw [List.isEmpty_cons, Bool.not_false, Bool.or_true, Bool.true_or]
        refine Or.inr ⟨poll :: earlier, last, later, outcome, rfl,
          List.forall_mem_cons.2 ⟨hgoes, hall⟩, ?_, rfl⟩
        rwa [hwaited]
    · refine Or.inr
        ⟨[], poll, polls, outcome, rfl, fun _ hmem => (List.not_mem_nil hmem).elim, ?_, heq⟩
      rwa [List.isEmpty_nil, Bool.not_true, Bool.or_false]

/-! ## What waiting comes to -/

/-- The waiting ends in this way: some look is the first that does not go on, and this is how it
ends the waiting. -/
def EndsIn (b : Backpressure) (needed : Nat) (polls : List QueuePoll) (outcome : WaitOutcome) :
    Prop :=
  ∃ earlier poll later, polls = earlier ++ poll :: later ∧
    (∀ before ∈ earlier, b.GoesOn needed before) ∧ b.Ends needed (!earlier.isEmpty) poll outcome

variable {b : Backpressure} {needed : Nat} {waited : Bool} {poll : QueuePoll}
  {polls : List QueuePoll} {outcome : WaitOutcome}

theorem Ends.ne_pending (h : b.Ends needed waited poll outcome) : outcome ≠ .pending := by
  cases h <;> exact nofun

theorem Ends.not_goesOn (h : b.Ends needed waited poll outcome) : ¬ b.GoesOn needed poll := by
  rintro ⟨queued, hreading, hfull, htime⟩
  cases h with
  | failed reason elapsed => cases hreading
  | room queued' elapsed hroom =>
    cases hreading
    exact absurd hroom (Nat.not_le.2 hfull)
  | late queued' elapsed hfull' hlate => exact absurd hlate (Nat.not_le.2 htime)

/-- A look ends the waiting in one way only. -/
theorem Ends.unique {outcome' : WaitOutcome} (h : b.Ends needed waited poll outcome)
    (h' : b.Ends needed waited poll outcome') : outcome = outcome' := by
  cases h with
  | failed => cases h'; rfl
  | room queued elapsed hroom =>
    cases h' with
    | room => rfl
    | late _ _ hfull => exact absurd hroom (Nat.not_le.2 hfull)
  | late queued elapsed hfull =>
    cases h' with
    | room _ _ hroom => exact absurd hroom (Nat.not_le.2 hfull)
    | late => rfl

/-- The first look that does not go on decides. -/
theorem fst_waitFrom_of_ends {earlier later : List QueuePoll}
    (hgoes : ∀ before ∈ earlier, b.GoesOn needed before)
    (hends : b.Ends needed (waited || !earlier.isEmpty) poll outcome) :
    (b.waitFrom needed waited (earlier ++ poll :: later)).1 = outcome := by
  -- On the looks that go on, as the waiting itself goes through them.
  induction earlier generalizing waited with
  | nil =>
    rw [List.isEmpty_nil, Bool.not_true, Bool.or_false] at hends
    rcases b.waitFrom_cons needed waited poll later with ⟨hon, -⟩ | ⟨outcome', hends', heq⟩
    -- The deciding look would have to go on as well.
    · exact absurd hon hends.not_goesOn
    · rw [List.nil_append, heq]
      exact hends'.unique hends
  | cons first rest ih =>
    obtain ⟨hfirst, hrest⟩ := List.forall_mem_cons.1 hgoes
    rw [List.isEmpty_cons, Bool.not_false, Bool.or_true] at hends
    rcases b.waitFrom_cons needed waited first (rest ++ poll :: later) with
      ⟨-, heq⟩ | ⟨outcome', hends', -⟩
    · rw [List.cons_append, heq]
      exact ih hrest (by rwa [Bool.true_or])
    · exact absurd hfirst hends'.not_goesOn

/-- Waiting comes to an outcome exactly if it ends in it. -/
theorem wait_eq_iff (houtcome : outcome ≠ .pending) :
    (b.wait needed polls).1 = outcome ↔ b.EndsIn needed polls outcome := by
  constructor
  · intro hwait
    rcases b.waitFrom_cases needed false polls with
      ⟨-, heq⟩ | ⟨earlier, poll, later, outcome', hsplit, hgoes, hends, heq⟩
    · rw [wait, heq] at hwait
      exact absurd hwait.symm houtcome
    · rw [wait, heq] at hwait
      exact ⟨earlier, poll, later, hsplit, hgoes, hwait ▸ hends⟩
  · rintro ⟨earlier, poll, later, rfl, hgoes, hends⟩
    exact fst_waitFrom_of_ends hgoes hends

/-- Waiting comes to nothing only if every look lets it go on. -/
theorem wait_eq_pending_iff :
    (b.wait needed polls).1 = .pending ↔ ∀ poll ∈ polls, b.GoesOn needed poll := by
  rcases b.waitFrom_cases needed false polls with
    ⟨hall, heq⟩ | ⟨earlier, poll, later, outcome, rfl, -, hends, heq⟩
  · rw [wait, heq]
    exact iff_of_true rfl hall
  · rw [wait, heq]
    exact iff_of_false hends.ne_pending fun hall =>
      hends.not_goesOn (hall poll (List.mem_append_right _ List.mem_cons_self))

end VehicleLink.Backpressure
