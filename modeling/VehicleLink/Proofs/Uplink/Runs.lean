import VehicleLink.Proofs.Uplink.Handling

/-!
# Runs of the uplink worker

A run is a sequence of steps of which one may end it. `Ran.andThen` puts two parts of a run together
and is associative, so that a run over a list can be cut anywhere (`follow_append`), also in front
of its last step (`worker_follow_concat`). The loop itself takes whole iterations as steps; but for
the number of iterations that is the same as following what the worker does in them, one thing after
the other (`run_uncounted`). What is shown of sequences of actions therefore holds of the loop.

* `Completed` : how far a sequence of actions got before a datagram made the worker stop.
-/

namespace VehicleLink.Uplink

/-! ## One part after the other -/

namespace Ran

variable {first : Ran} {others : Uplink → Ran}

/-- If the first part has gone through, the second one starts from the worker that it leaves behind,
and what they did adds up. -/
theorem andThen_of_stopped (h : first.ending = .stopped) :
    first.andThen others =
      { others first.worker with
        iterations := first.iterations + (others first.worker).iterations
        serial := first.serial ++ (others first.worker).serial
        notices := first.notices ++ (others first.worker).notices } := by
  unfold andThen
  rw [h]

theorem andThen_of_ended (h : first.ending ≠ .stopped) : first.andThen others = first := by
  unfold andThen
  split
  · rename_i hending
    exact absurd hending h
  · rfl

theorem writes_andThen_of_stopped (h : first.ending = .stopped) :
    (first.andThen others).writes = first.writes ++ (others first.worker).writes := by
  rw [andThen_of_stopped h]
  exact List.filterMap_append

/-- A part in which nothing happens can be left out. -/
@[simp] theorem nothing_andThen (w : Uplink) (others : Uplink → Ran) :
    ({ ending := .stopped, worker := w } : Ran).andThen others = others w := by
  rw [andThen_of_stopped rfl]
  simp only [Nat.zero_add, List.nil_append]

/-- A run in three parts is the same wherever it is cut first. -/
theorem andThen_assoc (first : Ran) (second third : Uplink → Ran) :
    (first.andThen second).andThen third = first.andThen fun w => (second w).andThen third := by
  -- Only if the first part goes through does the second one matter, and only then can the third.
  by_cases hfirst : first.ending = .stopped
  · by_cases hsecond : (second first.worker).ending = .stopped
    · have hboth : (first.andThen second).ending = .stopped := by
        rw [andThen_of_stopped hfirst]
        exact hsecond
      rw [andThen_of_stopped hboth, andThen_of_stopped hfirst, andThen_of_stopped hfirst,
        andThen_of_stopped hsecond]
      simp only [Nat.add_assoc, List.append_assoc]
    · have hended : (first.andThen second).ending ≠ .stopped := by
        rw [andThen_of_stopped hfirst]
        exact hsecond
      rw [andThen_of_ended hended, andThen_of_stopped hfirst, andThen_of_stopped hfirst,
        andThen_of_ended hsecond]
  -- Nothing comes after the first part, however the others are grouped.
  · rw [andThen_of_ended hfirst, andThen_of_ended hfirst, andThen_of_ended hfirst]

/-- A run without the number of its iterations. -/
def uncounted (r : Ran) : Ran := { r with iterations := 0 }

theorem uncounted_andThen (first : Ran) (others : Uplink → Ran) :
    (first.andThen others).uncounted =
      first.uncounted.andThen fun w => (others w).uncounted := by
  by_cases h : first.ending = .stopped
  · have huncounted : first.uncounted.ending = .stopped := h
    rw [andThen_of_stopped h, andThen_of_stopped huncounted]
    rfl
  · have huncounted : first.uncounted.ending ≠ .stopped := h
    rw [andThen_of_ended h, andThen_of_ended huncounted]

end Ran

/-! ## Sequences of steps -/

theorem follow_nil {α : Type} (step : Uplink → α → Ran) (w : Uplink) :
    w.follow step [] = { ending := .stopped, worker := w } := rfl

theorem follow_cons {α : Type} (step : Uplink → α → Ran) (w : Uplink) (a : α) (rest : List α) :
    w.follow step (a :: rest) = (step w a).andThen fun v => v.follow step rest := rfl

/-- A run over two lists, one after the other, is a run in two parts. -/
theorem follow_append {α : Type} (step : Uplink → α → Ran) (w : Uplink) (first second : List α) :
    w.follow step (first ++ second) =
      (w.follow step first).andThen fun v => v.follow step second := by
  -- On the first part; the rest of it is followed by the worker that its head leaves behind.
  induction first generalizing w with
  | nil => rw [List.nil_append, follow_nil, Ran.nothing_andThen]
  | cons a rest ih =>
    have hrest : (fun v : Uplink => v.follow step (rest ++ second)) =
        fun v => (v.follow step rest).andThen fun v => v.follow step second := funext ih
    rw [List.cons_append, follow_cons, follow_cons, Ran.andThen_assoc, hrest]

/-- If nothing ended the steps, the last one was taken after all others. -/
theorem worker_follow_concat {α : Type} {step : Uplink → α → Ran} {w : Uplink}
    {first : List α} {a : α}
    (h : (w.follow step (first ++ [a])).ending = .stopped) :
    (w.follow step (first ++ [a])).worker = (step (w.follow step first).worker a).worker := by
  rw [follow_append] at h ⊢
  by_cases hfirst : (w.follow step first).ending = .stopped
  · rw [Ran.andThen_of_stopped hfirst] at h ⊢
    by_cases hlast : (step (w.follow step first).worker a).ending = .stopped
    · show (follow step (w.follow step first).worker [a]).worker = _
      rw [follow_cons, Ran.andThen_of_stopped hlast]
      rfl
    · show (follow step (w.follow step first).worker [a]).worker = _
      rw [follow_cons, Ran.andThen_of_ended hlast]
  · rw [Ran.andThen_of_ended hfirst] at h
    exact absurd h hfirst

/-- The loop does, one thing after the other, what it does in its iterations. -/
theorem run_uncounted (w : Uplink) (iterations : List Iteration) :
    (w.run iterations).uncounted =
      (w.follow perform (iterations.flatMap Iteration.actions)).uncounted := by
  unfold run
  induction iterations generalizing w with
  | nil => rfl
  | cons i rest ih =>
    rw [follow_cons, List.flatMap_cons, follow_append, Ran.uncounted_andThen, Ran.uncounted_andThen]
    exact congrArg (Ran.andThen (w.follow perform i.actions).uncounted) (funext ih)

/-! ## Where a run stops -/

/-- What was taken in until the worker stopped: everything, or what came before a datagram that made
it stop. -/
structure Completed (w : Uplink) (actions done rest : List Action) : Prop where
  split : actions = done ++ rest
  /-- None of it made the worker stop. -/
  stopped : (w.follow perform done).ending = .stopped
  /-- Either nothing is left, or the next datagram makes the worker stop. -/
  next : rest = [] ∨ ∃ datagram sender now reply later,
    rest = .treat datagram sender now reply :: later ∧
      ((w.follow perform done).worker.handle datagram sender now reply).outcome.ending? =
        some (w.follow perform actions).ending

theorem Completed.cons {w : Uplink} {a : Action} {actions done rest : List Action}
    (ha : (w.perform a).ending = .stopped)
    (h : Completed (w.perform a).worker actions done rest) :
    Completed w (a :: actions) (a :: done) rest := by
  refine ⟨congrArg (a :: ·) h.split, ?_, ?_⟩
  · rw [follow_cons, Ran.andThen_of_stopped ha]
    exact h.stopped
  · rw [follow_cons, follow_cons, Ran.andThen_of_stopped ha, Ran.andThen_of_stopped ha]
    exact h.next

end VehicleLink.Uplink
