import VehicleLink.Config.Validation
import VehicleLink.Proofs.Downlink.FanOut
import VehicleLink.Proofs.Uplink.Admission
import VehicleLink.Relay

/-!
# Both workers at work

The workers take turns on one state, in any order. Neither gets in the other's way: which turns end
the relay, what is written to the vehicle and what the primary controller gets can be told from the
input of one worker alone, as if the other had not been there (`each_direction_as_if_alone`). That
is so because a turn of one worker changes nothing of the other's own, and of what they share only
the directory, the streams and the counters.

* `running_iff` : only a worker's own input ends the relay.
* `written_eq_admitted` : from the network to the vehicle.
* `ledger_takeAll` : from the vehicle to the primary controller.
-/

namespace VehicleLink

namespace Uplink

/-! ## What the uplink worker does to the directory -/

/-- An action is a whole operation on the directory, or none. -/
theorem directory_perform (w : Uplink) (a : Action) :
    ∃ operations, (w.perform a).worker.state.directory =
      w.state.directory.performAll operations := by
  cases a with
  | readGate locked => exact ⟨[], rfl⟩
  | purge now => exact ⟨[.purge now], rfl⟩
  | purgeIfDue now =>
    show ∃ operations, (w.purgeIfDue now).state.directory = _
    unfold purgeIfDue
    split
    · exact ⟨[.purge now], rfl⟩
    · exact ⟨[], rfl⟩
  | treat datagram sender now reply =>
    show ∃ operations, (w.handle datagram sender now reply).worker.state.directory = _
    cases hinspect : Frame.inspect datagram with
    | error e =>
      rw [handle_of_malformed hinspect]
      exact ⟨[], rfl⟩
    | ok header =>
      -- From a frame its sender is learned, even if the frame goes no further.
      refine ⟨[.registerSource sender header.system header.component now], ?_⟩
      obtain ⟨uplink, hworker⟩ := worker_handle_of_ok hinspect
      rw [hworker]
      rfl

/-- A sequence of actions is some whole operations on the directory. -/
theorem directory_follow (w : Uplink) (actions : List Action) :
    ∃ operations, (w.follow perform actions).worker.state.directory =
      w.state.directory.performAll operations := by
  induction actions generalizing w with
  | nil => exact ⟨[], rfl⟩
  | cons a rest ih =>
    obtain ⟨first, hfirst⟩ := w.directory_perform a
    by_cases ha : (w.perform a).ending = .stopped
    · obtain ⟨others, hothers⟩ := ih (w.perform a).worker
      refine ⟨first ++ others, ?_⟩
      rw [follow_cons, Ran.andThen_of_stopped ha]
      show ((w.perform a).worker.follow perform rest).worker.state.directory = _
      rw [hothers, hfirst]
      exact List.foldl_append.symm
    · rw [follow_cons, Ran.andThen_of_ended ha]
      exact ⟨first, hfirst⟩

/-- What the second part has to put on the line goes by the gate that the first one leaves
behind. -/
theorem admitted_append (locked : Bool) (first second : List Action) :
    admitted locked (first ++ second) =
      admitted locked first ++ admitted (lockedAfter locked first) second := by
  induction first generalizing locked with
  | nil => rfl
  | cons a rest ih =>
    rw [List.cons_append, admitted_cons, admitted_cons, ih, List.append_assoc]
    rfl

/-- The line takes all of both parts if it takes all of each. -/
theorem allTaken_append {b : Backpressure} {locked : Bool} {first second : List Action} :
    AllTaken b locked (first ++ second) ↔
      AllTaken b locked first ∧ AllTaken b (lockedAfter locked first) second := by
  induction first generalizing locked with
  | nil => exact (and_iff_right trivial).symm
  | cons a rest ih =>
    show a.Taken b locked ∧ AllTaken b (a.locked locked) (rest ++ second) ↔ _
    rw [ih, ← and_assoc]
    rfl

end Uplink

/-- What the downlink worker finds done to the directory was done step by step. -/
theorem Downlink.directory_performAll (net : Network) {w : Downlink}
    (h : w.state.directory.registry.Apart) (actions : List Action) :
    ∃ steps, (w.performAll net actions).state.directory = w.state.directory.after steps := by
  -- The trail of the worker follows the directory, and it changes with arrivals only.
  obtain ⟨steps, hsteps⟩ :=
    Trail.directory_foldl net w.trail (actions.filterMap Action.arrival?)
  rw [← trail_performAll h] at hsteps
  exact ⟨steps, hsteps⟩

theorem Directory.Reachable.after {d : Directory} (h : d.Reachable) (steps : List Step) :
    (d.after steps).Reachable := by
  obtain ⟨primary, timeout, earlier, rfl⟩ := h
  exact ⟨primary, timeout, earlier ++ steps, (after_append _ _ _).symm⟩

namespace Relay

/-! ## Turns -/

/-- A turn of one of the workers. -/
inductive Turn where
  | receive (i : Uplink.Iteration)
  | transmit (i : Downlink.Iteration)
deriving DecidableEq, Repr

/-- What the uplink worker does in a turn. -/
def Turn.actions : Turn → List Uplink.Action
  | receive i => i.actions
  | transmit _ => []

/-- What the downlink worker goes through in a turn. -/
def Turn.iteration? : Turn → Option Downlink.Iteration
  | receive _ => none
  | transmit i => some i

/-- The relay after a turn. -/
def take (net : Network) (r : Relay) : Turn → Relay
  | .receive i => (r.receive i).1
  | .transmit i => (r.transmit net i).1

/-- The relay after some turns, in order. -/
def takeAll (net : Network) (r : Relay) (turns : List Turn) : Relay := turns.foldl (take net) r

/-- The relay goes on after a turn. -/
def Survives (net : Network) (r : Relay) : Turn → Prop
  | .receive i => (r.receive i).2.ending = .stopped
  | .transmit i => (r.transmit net i).2 = none

/-- None of the turns ends the relay. -/
def Running (net : Network) (r : Relay) : List Turn → Prop
  | [] => True
  | turn :: rest => r.Survives net turn ∧ (r.take net turn).Running net rest

/-- What is written to the serial line in a turn. -/
def writtenIn (r : Relay) : Turn → List Bytes
  | .receive i => (r.receive i).2.writes
  | .transmit _ => []

/-- What is written to the serial line in some turns. -/
def written (net : Network) (r : Relay) : List Turn → List Bytes
  | [] => []
  | turn :: rest => r.writtenIn turn ++ (r.take net turn).written net rest

variable {net : Network} {r : Relay}

/-! ## From the network to the vehicle -/

/-- A turn ends the relay only for reasons of its own worker. -/
theorem survives_iff {turn : Turn} :
    r.Survives net turn ↔
      Uplink.AllTaken r.uplink.backpressure r.uplink.rcLocked turn.actions ∧
        Downlink.failure? turn.iteration?.toList = none := by
  cases turn with
  | receive i => exact Uplink.ending_follow_iff.trans (and_iff_left rfl).symm
  | transmit i =>
    have hfailure : Downlink.failure? [i] = i.read.failure? := Option.or_none
    show (r.downlink.iterate net i).2 = none ↔ _ ∧ Downlink.failure? [i] = none
    rw [Downlink.iterate_eq_performAll, hfailure]
    exact (and_iff_right trivial).symm

/-- A turn of either worker leaves the uplink worker waiting for room as before. -/
theorem backpressure_take (net : Network) (r : Relay) (turn : Turn) :
    (r.take net turn).uplink.backpressure = r.uplink.backpressure := by
  cases turn with
  | receive i => exact r.uplink.backpressure_follow i.actions
  | transmit i => rfl

/-- Only the uplink worker's own turns change the gate as it read it last. -/
theorem rcLocked_take {turn : Turn} (h : r.Survives net turn) :
    (r.take net turn).uplink.rcLocked = Uplink.lockedAfter r.uplink.rcLocked turn.actions := by
  cases turn with
  | receive i => exact Uplink.rcLocked_follow h
  | transmit i => rfl

theorem writtenIn_eq_admitted {turn : Turn} (h : r.Survives net turn) :
    r.writtenIn turn = Uplink.admitted r.uplink.rcLocked turn.actions := by
  cases turn with
  | receive i => exact Uplink.writes_follow_of_stopped h
  | transmit i => rfl

/-- While the relay runs, exactly the admitted traffic is written, whatever comes from the vehicle
in between. -/
theorem written_eq_admitted {turns : List Turn} (h : r.Running net turns) :
    r.written net turns = Uplink.admitted r.uplink.rcLocked (turns.flatMap Turn.actions) := by
  induction turns generalizing r with
  | nil => rfl
  | cons turn rest ih =>
    obtain ⟨hturn, hrest⟩ := h
    rw [written, List.flatMap_cons, Uplink.admitted_append, writtenIn_eq_admitted hturn, ih hrest,
      rcLocked_take hturn]

theorem filterMap_iteration?_cons (turn : Turn) (rest : List Turn) :
    (turn :: rest).filterMap Turn.iteration? =
      turn.iteration?.toList ++ rest.filterMap Turn.iteration? := by
  cases turn <;> rfl

/-- The relay runs as long as the line takes what is admitted and reading from it does not fail. -/
theorem running_iff {turns : List Turn} :
    r.Running net turns ↔
      Uplink.AllTaken r.uplink.backpressure r.uplink.rcLocked (turns.flatMap Turn.actions) ∧
        Downlink.failure? (turns.filterMap Turn.iteration?) = none := by
  induction turns generalizing r with
  | nil => exact iff_of_true trivial ⟨trivial, rfl⟩
  | cons turn rest ih =>
    have hrest (hturn : r.Survives net turn) : (r.take net turn).Running net rest ↔
        Uplink.AllTaken r.uplink.backpressure
            (Uplink.lockedAfter r.uplink.rcLocked turn.actions) (rest.flatMap Turn.actions) ∧
          Downlink.failure? (rest.filterMap Turn.iteration?) = none := by
      rw [ih, backpressure_take, rcLocked_take hturn]
    -- Both conditions fall apart into the first turn and the rest; what remains is to regroup them.
    rw [List.flatMap_cons, Uplink.allTaken_append, filterMap_iteration?_cons,
      Downlink.failure?_append, Option.or_eq_none_iff]
    exact (and_congr_right hrest).trans ((and_congr_left' survives_iff).trans and_and_and_comm)

/-! ## From the vehicle to the network -/

/-- What the workers do to the directory is done step by step. -/
theorem directory_take (net : Network) (h : r.state.directory.Reachable) (turn : Turn) :
    ∃ steps, (r.take net turn).state.directory = r.state.directory.after steps := by
  cases turn with
  | receive i =>
    obtain ⟨operations, hoperations⟩ := r.uplink.directory_follow i.actions
    exact ⟨r.state.directory.stepsAll operations,
      hoperations.trans (Directory.after_stepsAll _ operations).symm⟩
  | transmit i =>
    -- The two workers have one state between them.
    have hdownlink : r.downlink.state.directory = r.state.directory :=
      congrArg State.directory r.shared.symm
    obtain ⟨steps, hsteps⟩ := Downlink.directory_performAll net (hdownlink.symm ▸ h.apart)
      (i.actions r.downlink.scanner)
    refine ⟨steps, ?_⟩
    show (r.downlink.iterate net i).1.state.directory = _
    rw [Downlink.iterate_eq_performAll, hsteps, hdownlink]

theorem reachable_takeAll (h : r.state.directory.Reachable) (turns : List Turn) :
    (r.takeAll net turns).state.directory.Reachable := by
  induction turns generalizing r with
  | nil => exact h
  | cons turn rest ih =>
    obtain ⟨steps, hsteps⟩ := directory_take net h turn
    exact ih (hsteps ▸ h.after steps)

/-- The scanner is the downlink worker's own. -/
theorem scanner_take (net : Network) (r : Relay) (turn : Turn) :
    (r.take net turn).downlink.scanner =
      Downlink.scannerAfter r.downlink.scanner turn.iteration?.toList := by
  cases turn with
  | receive i => rfl
  | transmit i =>
    show (r.downlink.iterate net i).1.scanner = _
    rw [Downlink.iterate_eq_performAll]
    exact Downlink.scanner_iterate net r.downlink i

variable {bulkIds : List UInt32} {primary : SocketAddress} {limit : Nat} {arrived : List Bytes}

/-- The uplink worker changes the directory, but not who the primary controller is, and it never
makes a client of it. -/
theorem ledger_take (hreachable : r.state.directory.Reachable)
    (h : Downlink.Ledger bulkIds primary limit arrived r.downlink.books) (turn : Turn) :
    Downlink.Ledger bulkIds primary limit
      (arrived ++ Downlink.collected bulkIds limit
        (Downlink.arrivals r.downlink.scanner turn.iteration?.toList))
      (r.take net turn).downlink.books := by
  cases turn with
  | receive i =>
    obtain ⟨steps, hsteps⟩ := directory_take net hreachable (.receive i)
    have hdirectory : (r.take net (.receive i)).downlink.state.directory =
        r.downlink.state.directory.after steps := by
      rw [← congrArg State.directory r.shared]
      exact hsteps
    -- Nothing arrives in a turn of the uplink worker; only who is a client may change.
    show Downlink.Ledger _ _ _ (arrived ++ []) _
    rw [List.append_nil]
    refine ⟨h.bulkIds_eq, ?_, ?_, h.sized, h.limit_eq, h.batched⟩
    · show (r.take net (.receive i)).downlink.state.directory.registry.primary = primary
      rw [hdirectory, Directory.primary_after]
      exact h.primary_eq
    · show (r.take net (.receive i)).downlink.state.directory.registry.Apart
      rw [hdirectory]
      exact Directory.apart_after h.apart steps
  | transmit i =>
    -- Whether or not the reading fails, this is the last iteration that is looked at.
    have harrivals : Downlink.arrivals r.downlink.scanner [i] = i.arrivals r.downlink.scanner := by
      unfold Downlink.arrivals
      cases i.read.failure? with
      | none | some => exact List.append_nil _
    have hperformed : Downlink.Ledger _ _ _ _
        (r.downlink.performAll net (i.actions r.downlink.scanner)).books :=
      h.performAll (i.actions r.downlink.scanner)
    rw [Downlink.Iteration.filterMap_arrival?_actions, ← harrivals] at hperformed
    show Downlink.Ledger _ _ _ _ (r.downlink.iterate net i).1.books
    rw [Downlink.iterate_eq_performAll]
    exact hperformed

/-- While the relay runs, all that comes in for the primary controller is sent to it or waits,
whatever comes from the network in between. -/
theorem ledger_takeAll (hreachable : r.state.directory.Reachable)
    (h : Downlink.Ledger bulkIds primary limit arrived r.downlink.books) {turns : List Turn}
    (hrunning : r.Running net turns) :
    Downlink.Ledger bulkIds primary limit
      (arrived ++ Downlink.collected bulkIds limit
        (Downlink.arrivals r.downlink.scanner (turns.filterMap Turn.iteration?)))
      (r.takeAll net turns).downlink.books := by
  -- On the turns. What has arrived so far grows from turn to turn, so it is generalized.
  induction turns generalizing r arrived with
  | nil => exact (List.append_nil arrived).symm ▸ h
  | cons turn rest ih =>
    obtain ⟨hturn, hrest⟩ := hrunning
    have hreached : (r.take net turn).state.directory.Reachable :=
      reachable_takeAll hreachable [turn]
    have hnext := ih hreached (ledger_take hreachable h turn) hrest
    rw [scanner_take, List.append_assoc, ← Downlink.collected_append] at hnext
    rw [filterMap_iteration?_cons, Downlink.arrivals_append (survives_iff.1 hturn).2]
    exact hnext

/-! ## The end -/

theorem frames_stop (net : Network) (r : Relay) :
    (r.stop net).downlink.aggregate.frames = [] :=
  Downlink.frames_flush net r.downlink

theorem clients_stop (net : Network) (r : Relay) : (r.stop net).state.directory.clients = [] :=
  rfl

/-- At the end one more batch is sent, and forgetting the clients changes nothing of what was
sent. -/
theorem ledger_stop (h : Downlink.Ledger bulkIds primary limit arrived r.downlink.books) :
    Downlink.Ledger bulkIds primary limit arrived (r.stop net).downlink.books := by
  have hflushed : Downlink.Ledger bulkIds primary limit arrived
      (r.downlink.flush net).books := h.flush
  exact ⟨hflushed.bulkIds_eq, hflushed.primary_eq, Registry.apart_clear _, hflushed.sized,
    hflushed.limit_eq, hflushed.batched⟩

/-- A relay that waits for datagrams at all starts, and has heard no one. -/
theorem exists_start (c : Config) (hrecv : c.recvTimeoutMs ≠ 0) (now : Nat) :
    ∃ r, start c now = .ok r ∧ r.uplink.rcLocked = false ∧
      r.downlink = Downlink.start c (.empty c.primaryAddress c.clientTimeout) now := by
  simp only [start, Uplink.start, if_neg hrecv]
  exact ⟨_, rfl, rfl, rfl⟩

/-- **Each direction works as if it were alone.** A usable configuration starts a relay. In whatever
order its workers take their turns, and whatever the network does, the relay runs on exactly as long
as the line takes what is admitted and reading from it does not fail. As long as it runs, exactly
the admitted traffic is written to the vehicle; what came in for the primary controller was sent to
it in order or still waits; and the primary controller is no client. Once the relay is stopped, all
of that was sent, and no one is a client any more. What is admitted and what comes in is told from
the turns of one worker alone. -/
theorem each_direction_as_if_alone (c : Config) (hvalid : c.validate = .ok c) (now : Nat) :
    ∃ r, start c now = .ok r ∧ ∀ (net : Network) (turns : List Turn),
      let limit := c.aggregateMaxPayload.toNat
      let actions := turns.flatMap Turn.actions
      let arrived := Downlink.collected c.bulkTransferIds limit
        (Downlink.arrivals {} (turns.filterMap Turn.iteration?))
      let s := r.takeAll net turns
      (r.Running net turns ↔ Uplink.AllTaken r.uplink.backpressure false actions ∧
        Downlink.failure? (turns.filterMap Turn.iteration?) = none) ∧
      (r.Running net turns →
        r.written net turns = Uplink.admitted false actions ∧
        (∃ batches : List (List Bytes),
          batches.flatten ++ s.downlink.aggregate.frames = arrived ∧
          Aggregate.Batched limit batches
            (Downlink.datagramsTo c.primaryAddress s.downlink.sent)) ∧
        c.primaryAddress ∉ s.state.directory.clients ∧
        (s.stop net).state.directory.clients = [] ∧
        ∃ batches : List (List Bytes), batches.flatten = arrived ∧
          Aggregate.Batched limit batches
            (Downlink.datagramsTo c.primaryAddress (s.stop net).downlink.sent)) := by
  have hrecv : c.recvTimeoutMs ≠ 0 :=
    (Config.violation?_eq_ok_none_iff.1 (Config.validate_eq_ok_iff.1 hvalid)).2.2.2.2.2.1
  obtain ⟨r, hstart, hlocked, hdownlink⟩ := exists_start c hrecv now
  refine ⟨r, hstart, fun net turns => ?_⟩
  intro limit actions arrived s
  refine ⟨hlocked ▸ running_iff (r := r), fun hrunning => ?_⟩
  have hempty : (State.empty c.primaryAddress c.clientTimeout).directory.Reachable :=
    ⟨_, _, [], rfl⟩
  have hreachable : r.state.directory.Reachable := by
    rw [state, r.shared, hdownlink]
    exact hempty
  have hbooks := Downlink.ledger_start c hempty now
  rw [← hdownlink] at hbooks
  -- The books of a relay that has just started hold, with nothing arrived.
  have hledger := ledger_takeAll hreachable hbooks hrunning
  have hscanner : r.downlink.scanner = {} := hdownlink ▸ rfl
  rw [hscanner, List.nil_append] at hledger
  have harrived : ∀ a ∈ Downlink.arrivals {} (turns.filterMap Turn.iteration?),
      a.bytes.length ≤ Downlink.injectLength :=
    fun a ha => Downlink.length_le_injectLength_of_mem_arrivals ha
  obtain ⟨batches, hbatches, hbatched⟩ := Downlink.Ledger.exists_batches hledger harrived
  -- The same books once the relay is stopped, when no frame waits any more.
  have hstopped : Downlink.Ledger _ _ _ _ (s.stop net).downlink.books := ledger_stop hledger
  obtain ⟨all, hall, hallBatched⟩ := Downlink.Ledger.exists_batches hstopped harrived
  rw [frames_stop, List.append_nil] at hall
  refine ⟨?_, ⟨batches, hbatches, hbatched⟩, ?_, clients_stop net s, all, hall, hallBatched⟩
  · rw [written_eq_admitted hrunning, hlocked]
  · have hshared : s.state.directory = s.downlink.state.directory :=
      congrArg State.directory s.shared
    have hprimary : s.downlink.state.directory.registry.primary = c.primaryAddress :=
      hledger.primary_eq
    rw [hshared, ← hprimary]
    exact hledger.apart

end Relay

end VehicleLink
