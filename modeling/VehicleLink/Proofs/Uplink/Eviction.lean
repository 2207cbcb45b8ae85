import VehicleLink.Proofs.Directory.Consistency
import VehicleLink.Proofs.Uplink.Runs

/-!
# Silent clients are removed

The worker removes silent clients whenever no datagram came in time, and otherwise whenever the
purge interval is over. Clients that stay registered were therefore heard within the client timeout
and one purge interval, whatever comes in meanwhile (`silent_clients_removed`).

What carries the proof is a fact about the last purge, not about the present time: every client was
silent for no longer than the timeout when the worker last removed silent clients, or was heard
after that (`Watched`). Whoever is heard is heard no earlier than the last purge as long as the
clock does not step back, and a purge restores the fact for its own time. How long ago the last
purge was is known at the end of an iteration, because the last thing that the worker does in it is
to purge, or to find that it is too early for that (`Watched.heardWithin`).
-/

namespace VehicleLink

/-- Every client was heard no longer than `span` ago, and every route leads to such a client. -/
structure Directory.HeardWithin (d : Directory) (span now : Nat) : Prop where
  clients : ∀ ⦃address client⦄, d.registry.clients.get? address = some client →
    Duration.between client.lastSeen now ≤ span
  routes : ∀ ⦃system component owner⦄, d.routes.owner? system component = some owner →
    ∃ client, d.registry.clients.get? owner = some client ∧
      Duration.between client.lastSeen now ≤ span

theorem Directory.HeardWithin.mono {d : Directory} {span longer now : Nat}
    (h : d.HeardWithin span now) (hspan : span ≤ longer) : d.HeardWithin longer now := by
  refine ⟨fun address client hclient => Nat.le_trans (h.clients hclient) hspan, ?_⟩
  intro system component owner howner
  obtain ⟨client, hclient, hheard⟩ := h.routes howner
  exact ⟨client, hclient, Nat.le_trans hheard hspan⟩

namespace Uplink

/-! ## Readings of the clock -/

/-- The readings of the clock that come with a reception, in order. -/
def Reception.readings : Reception → List Nat
  | .datagram _ _ now checkedAt _ => [now, checkedAt]
  | .timedOut now => [now]
  | .interrupted => []
  | .failed checkedAt => [checkedAt]

/-- The reading of the clock that an action works with. -/
def Action.reading? : Action → Option Nat
  | .readGate _ => none
  | .treat _ _ now _ => some now
  | .purge now => some now
  | .purgeIfDue now => some now

theorem Iteration.filterMap_reading?_actions (i : Iteration) :
    i.actions.filterMap Action.reading? = i.reception.readings := by
  obtain ⟨gate, reception⟩ := i
  cases reception <;> rfl

theorem filterMap_reading?_flatMap_actions (iterations : List Iteration) :
    (iterations.flatMap Iteration.actions).filterMap Action.reading? =
      iterations.flatMap fun i => i.reception.readings := by
  induction iterations with
  | nil => rfl
  | cons i rest ih =>
    rw [List.flatMap_cons, List.filterMap_append, i.filterMap_reading?_actions, ih,
      List.flatMap_cons]

/-- The last thing that is done in an iteration in which the clock was read. -/
theorem Iteration.exists_closing {i : Iteration} {t : Nat}
    (h : i.reception.readings.getLast? = some t) :
    ∃ opening closing, i.actions = opening ++ [closing] ∧
      (closing = .purge t ∨ closing = .purgeIfDue t ∧ i.reception ≠ .timedOut t) := by
  -- Every reception in which the clock was read ends in a purge or in a look at whether one is due.
  obtain ⟨gate, reception⟩ := i
  cases reception with
  | interrupted => cases h
  | timedOut now =>
    obtain rfl : now = t := Option.some.inj h
    exact ⟨[.readGate gate], _, rfl, Or.inl rfl⟩
  | failed checkedAt =>
    obtain rfl : checkedAt = t := Option.some.inj h
    exact ⟨[.readGate gate], _, rfl, Or.inr ⟨rfl, nofun⟩⟩
  | datagram bytes sender now checkedAt reply =>
    obtain rfl : checkedAt = t := Option.some.inj h
    exact ⟨[.readGate gate, .treat (bytes.take receiveLength) sender now reply], _, rfl,
      Or.inr ⟨rfl, nofun⟩⟩

/-! ## What the worker knows about its clients -/

variable {w : Uplink} {timeout interval : Nat}

/-- At the last purge no client had been silent for too long, those that came later included. -/
structure Watched (w : Uplink) (timeout interval : Nat) : Prop where
  consistent : w.state.directory.Consistent
  timeout_eq : w.state.directory.registry.timeout = timeout
  interval_eq : w.purgeInterval = interval
  heard : ∀ ⦃address client⦄, w.state.directory.registry.clients.get? address = some client →
    Duration.between client.lastSeen w.lastPurge ≤ timeout

/-- Nothing else of the worker matters. -/
theorem Watched.of_eq {v : Uplink} (h : w.Watched timeout interval)
    (hdirectory : v.state.directory = w.state.directory) (hlast : v.lastPurge = w.lastPurge)
    (hinterval : v.purgeInterval = w.purgeInterval) : v.Watched timeout interval := by
  refine ⟨?_, ?_, ?_, ?_⟩
  · rw [hdirectory]
    exact h.consistent
  · rw [hdirectory]
    exact h.timeout_eq
  · rw [hinterval]
    exact h.interval_eq
  · rw [hdirectory, hlast]
    exact h.heard

/-- Whoever is heard now was not silent at the last purge, which is over. -/
theorem Watched.learn (h : w.Watched timeout interval) {now : Nat} (hnow : w.lastPurge ≤ now)
    (sender : SocketAddress) (header : Frame.Header) :
    (w.learn sender header now).Watched timeout interval := by
  -- Learning a route changes nothing about who was heard when.
  have hregistry : (w.learn sender header now).state.directory.registry =
      w.state.directory.registry.contact sender now := rfl
  refine ⟨h.consistent.registerSource sender header.system header.component now, ?_,
    h.interval_eq, ?_⟩
  · rw [hregistry, Registry.contact_eq]
    exact h.timeout_eq
  · intro address client hclient
    rw [hregistry] at hclient
    show Duration.between client.lastSeen w.lastPurge ≤ timeout
    by_cases hprimary : sender = w.state.directory.registry.primary
    · -- The primary controller is not registered, and nothing changes.
      rw [hprimary, Registry.contact_primary] at hclient
      exact h.heard hclient
    · rw [Registry.get?_contact hprimary] at hclient
      split at hclient
      · -- The sender was heard now, which is not before the last purge.
        cases hclient
        show w.lastPurge - now ≤ timeout
        omega
      · exact h.heard hclient

theorem Watched.purge (h : w.Watched timeout interval) (now : Nat) :
    (w.purge now).Watched timeout interval := by
  refine ⟨h.consistent.purge now, h.timeout_eq, h.interval_eq, ?_⟩
  intro address client hclient
  -- Who is left was not silent for too long at this very time.
  have hleft := (h.consistent.keyed.get?_purge_eq_some_iff.1 hclient).2
  rwa [h.timeout_eq] at hleft

theorem Watched.purgeIfDue (h : w.Watched timeout interval) (now : Nat) :
    (w.purgeIfDue now).Watched timeout interval := by
  unfold Uplink.purgeIfDue
  split
  · exact h.purge now
  · exact h

/-- A datagram adds nobody but its sender, who is heard now. -/
theorem Watched.handle (h : w.Watched timeout interval) {now : Nat} (hnow : w.lastPurge ≤ now)
    (datagram : Bytes) (sender : SocketAddress) (reply : LineReply) :
    (w.handle datagram sender now reply).worker.Watched timeout interval := by
  cases hinspect : Frame.inspect datagram with
  | error e =>
    rw [handle_of_malformed hinspect]
    exact h.of_eq rfl rfl rfl
  | ok header =>
    obtain ⟨_, hworker⟩ := worker_handle_of_ok hinspect
    rw [hworker]
    -- Whatever became of the frame, no more than its sender was learned.
    exact (h.learn hnow sender header).of_eq rfl rfl rfl

/-- No action breaks what the worker knows, if the clock has not stepped back. -/
theorem Watched.perform (h : w.Watched timeout interval) {a : Action}
    (hclock : ∀ now, a.reading? = some now → w.lastPurge ≤ now) :
    (w.perform a).worker.Watched timeout interval := by
  cases a with
  | readGate locked => exact h.of_eq rfl rfl rfl
  | treat datagram sender now reply => exact h.handle (hclock now rfl) datagram sender reply
  | purge now => exact h.purge now
  | purgeIfDue now => exact h.purgeIfDue now

/-! ## Runs -/

/-- The last purge is as it was, or it is now. -/
theorem lastPurge_perform (w : Uplink) (a : Action) :
    (w.perform a).worker.lastPurge = w.lastPurge ∨
      a.reading? = some (w.perform a).worker.lastPurge := by
  cases a with
  | readGate locked => exact Or.inl rfl
  | treat datagram sender now reply =>
    obtain ⟨_, hworker⟩ := w.worker_handle datagram sender now reply
    refine Or.inl ?_
    show (w.handle datagram sender now reply).worker.lastPurge = w.lastPurge
    rw [hworker]
  | purge now => exact Or.inr rfl
  | purgeIfDue now =>
    show (w.purgeIfDue now).lastPurge = w.lastPurge ∨ some now = some (w.purgeIfDue now).lastPurge
    unfold Uplink.purgeIfDue
    split
    · exact Or.inr rfl
    · exact Or.inl rfl

/-- If the clock has not stepped back since the last purge, it has not after one more action
either. -/
theorem clock_perform {a : Action} {rest : List Action}
    (h : (w.lastPurge :: (a :: rest).filterMap Action.reading?).Pairwise (· ≤ ·)) :
    ((w.perform a).worker.lastPurge :: rest.filterMap Action.reading?).Pairwise (· ≤ ·) := by
  cases hreading : a.reading? with
  | none =>
    -- An action that does not read the clock is no purge.
    rw [List.filterMap_cons_none hreading] at h
    rcases w.lastPurge_perform a with hsame | hnow
    · rwa [hsame]
    · rw [hreading] at hnow
      cases hnow
  | some now =>
    rw [List.filterMap_cons_some hreading] at h
    rcases w.lastPurge_perform a with hsame | hnow
    · rw [hsame]
      exact h.sublist ((List.sublist_cons_self now _).cons_cons w.lastPurge)
    · obtain rfl : now = (w.perform a).worker.lastPurge :=
        Option.some.inj (hreading.symm.trans hnow)
      exact h.of_cons

/-- A run keeps what the worker knows, if the clock does not step back in it. -/
theorem Watched.follow (h : w.Watched timeout interval) {actions : List Action}
    (hclock : (w.lastPurge :: actions.filterMap Action.reading?).Pairwise (· ≤ ·)) :
    (w.follow Uplink.perform actions).worker.Watched timeout interval := by
  -- On the actions. `clock_perform` carries over that the clock has not stepped back.
  induction actions generalizing w with
  | nil => exact h
  | cons a rest ih =>
    have hnow : ∀ now, a.reading? = some now → w.lastPurge ≤ now := by
      intro now hreading
      rw [List.filterMap_cons_some hreading] at hclock
      exact List.rel_of_pairwise_cons hclock List.mem_cons_self
    have hstep := h.perform hnow
    rw [follow_cons]
    by_cases hending : (w.perform a).ending = .stopped
    · rw [Ran.andThen_of_stopped hending]
      exact ih hstep (clock_perform hclock)
    · rwa [Ran.andThen_of_ended hending]

/-! ## The end of an iteration -/

/-- A client that was not silent for too long at the last purge has not been silent for much longer
since. -/
theorem Watched.heardWithin (h : w.Watched timeout interval) {t span : Nat}
    (hspan : Duration.between w.lastPurge t ≤ span) :
    w.state.directory.HeardWithin (timeout + span) t := by
  have hclients : ∀ ⦃address client⦄,
      w.state.directory.registry.clients.get? address = some client →
        Duration.between client.lastSeen t ≤ timeout + span := by
    intro address client hclient
    have hheard := h.heard hclient
    -- A span is cut off at zero, so the two add up to at least the whole.
    unfold Duration.between at hheard hspan ⊢
    omega
  refine ⟨hclients, ?_⟩
  intro system component owner howner
  obtain ⟨client, hclient⟩ := Registry.mem_addresses_iff.1 (h.consistent.owner_mem howner)
  exact ⟨client, hclient, hclients hclient⟩

/-- Right after a purge the timeout alone bounds the silence. -/
theorem Watched.heardWithin_purge (h : w.Watched timeout interval) (t : Nat) :
    (w.purge t).state.directory.HeardWithin timeout t := by
  have hspan : Duration.between t t ≤ 0 := by
    unfold Duration.between
    omega
  exact (h.purge t).heardWithin hspan

/-- If it was too early for a purge, the purge interval comes on top of that. -/
theorem Watched.heardWithin_purgeIfDue (h : w.Watched timeout interval) (t : Nat) :
    (w.purgeIfDue t).state.directory.HeardWithin (timeout + interval) t := by
  unfold Uplink.purgeIfDue
  split
  · exact (h.heardWithin_purge t).mono (Nat.le_add_right timeout interval)
  · -- The last purge was less than one purge interval ago.
    rename_i hearly
    have hspan : Duration.between w.lastPurge t ≤ interval := by
      have hinterval := h.interval_eq
      omega
    exact h.heardWithin hspan

/-- A worker that starts with nobody registered knows nothing wrong. -/
theorem watched_of_nobody {primary : SocketAddress} {operations : List Directory.Operation}
    (hdirectory : w.state.directory = (Directory.empty primary timeout).performAll operations)
    (hnobody : w.state.directory.clients = []) : w.Watched timeout w.purgeInterval := by
  refine ⟨?_, ?_, rfl, ?_⟩
  · rw [hdirectory]
    exact (Directory.consistent_empty primary timeout).performAll operations
  · rw [hdirectory, Directory.timeout_performAll]
    rfl
  · intro address client hclient
    have hmem : address ∈ w.state.directory.clients :=
      Registry.mem_addresses_iff.2 ⟨client, hclient⟩
    rw [hnobody] at hmem
    cases hmem

/-- The end of an iteration is the end of its last action, which is done after all that came before
it. -/
theorem worker_run_concat {before : List Iteration} {i : Iteration} {opening : List Action}
    {closing : Action} (hactions : i.actions = opening ++ [closing])
    (hending : (w.run (before ++ [i])).ending = .stopped) :
    (w.run (before ++ [i])).worker =
      ((w.follow perform (before.flatMap Iteration.actions ++ opening)).worker.perform
        closing).worker := by
  -- The number of iterations aside, the run is one sequence of actions.
  have huncounted := w.run_uncounted (before ++ [i])
  have hall : (before ++ [i]).flatMap Iteration.actions =
      (before.flatMap Iteration.actions ++ opening) ++ [closing] := by
    rw [List.flatMap_append, List.flatMap_singleton, hactions, List.append_assoc]
  rw [hall] at huncounted
  have hworker := congrArg Ran.worker huncounted
  have hstopped := congrArg Ran.ending huncounted
  exact hworker.trans (worker_follow_concat (hstopped.symm.trans hending))

/-- **Silent clients are removed, whatever else comes in.** Let a worker start when nobody is
registered, with a clock that does not step back. At the end of every iteration that ends without an
error and in which the clock was read, every client was heard within the client timeout and one
purge interval before the last reading, and every route leads to such a client; if no datagram came
in time, within the client timeout alone. -/
theorem silent_clients_removed {w : Uplink} {primary : SocketAddress} {timeout : Nat}
    {operations : List Directory.Operation}
    (hdirectory : w.state.directory = (Directory.empty primary timeout).performAll operations)
    (hnobody : w.state.directory.clients = []) {iterations : List Iteration}
    (hclock : (w.lastPurge :: iterations.flatMap fun i => i.reception.readings).Pairwise (· ≤ ·))
    {before after : List Iteration} {i : Iteration} (hsplit : iterations = before ++ i :: after)
    (hending : (w.run (before ++ [i])).ending = .stopped) {t : Nat}
    (hlast : i.reception.readings.getLast? = some t) :
    let d := (w.run (before ++ [i])).worker.state.directory
    d.HeardWithin (timeout + w.purgeInterval) t ∧
      (i.reception = .timedOut t → d.HeardWithin timeout t) := by
  intro d
  obtain ⟨opening, closing, hactions, hclosing⟩ := Iteration.exists_closing hlast
  -- What the worker knows just before the last action of the iteration.
  have hwatched : (w.follow perform (before.flatMap Iteration.actions ++ opening)).worker.Watched
      timeout w.purgeInterval := by
    refine (watched_of_nobody hdirectory hnobody).follow
      (hclock.sublist (List.Sublist.cons_cons _ ?_))
    rw [← filterMap_reading?_flatMap_actions, hsplit, List.flatMap_append, List.flatMap_cons,
      hactions, List.append_assoc, ← List.append_assoc]
    exact (List.sublist_append_left _ _).filterMap Action.reading?
  have hd : d = ((w.follow perform (before.flatMap Iteration.actions ++ opening)).worker.perform
      closing).worker.state.directory := by
    show (w.run (before ++ [i])).worker.state.directory = _
    rw [worker_run_concat hactions hending]
  rw [hd]
  rcases hclosing with rfl | ⟨rfl, hother⟩
  -- No datagram came in time. The bound is the stronger one, and gives the other.
  · have hheard := hwatched.heardWithin_purge t
    exact ⟨hheard.mono (Nat.le_add_right timeout w.purgeInterval), fun _ => hheard⟩
  · exact ⟨hwatched.heardWithin_purgeIfDue t, fun htimedOut => absurd htimedOut hother⟩

/-- Two clients are heard once each. Waiting for more fails, and then nothing comes. -/
def twoClients : List Iteration :=
  [⟨false, .datagram [0xFE, 0, 0, 1, 1, 0, 0, 0] (.v4 ⟨10, 0, 0, 2⟩ 14550) 1000000000 1000000000
      { polls := [⟨.bytes 0, 0⟩] }⟩,
   ⟨false, .interrupted⟩,
   ⟨false, .datagram [0xFE, 0, 0, 2, 1, 0, 0, 0] (.v4 ⟨10, 0, 0, 3⟩ 14550) 10500000000 10500000000
      { polls := [⟨.bytes 0, 0⟩] }⟩,
   ⟨false, .failed 11250000000⟩,
   ⟨false, .failed 11500000000⟩,
   ⟨false, .timedOut 20600000000⟩]

/-- A worker that has just started, with a client timeout of ten seconds and a purge interval of
one. -/
def freshWorker : Uplink where
  state := .empty (.v4 ⟨10, 0, 0, 1⟩ 14550) 10000000000
  backpressure := { capacity := 4096, timeout := 1000000000 }
  purgeInterval := 1000000000
  lastPurge := 0

/-- The first client outlives the client timeout, but not by the purge interval. -/
theorem older_client_removed_first :
    let failed := (freshWorker.run (twoClients.take 4)).worker.state.directory
    let failedAgain := (freshWorker.run (twoClients.take 5)).worker.state.directory
    let timedOut := (freshWorker.run twoClients).worker.state.directory
    failed.clients = [.v4 ⟨10, 0, 0, 2⟩ 14550, .v4 ⟨10, 0, 0, 3⟩ 14550] ∧
      failed.HeardWithin 11000000000 11250000000 ∧
      failedAgain.clients = [.v4 ⟨10, 0, 0, 3⟩ 14550] ∧
      timedOut.clients = [] ∧ timedOut.HeardWithin 10000000000 20600000000 := by
  have hdirectory : freshWorker.state.directory =
      (Directory.empty (.v4 ⟨10, 0, 0, 1⟩ 14550) 10000000000).performAll [] := rfl
  have hclock : (freshWorker.lastPurge ::
      twoClients.flatMap fun i => i.reception.readings).Pairwise (· ≤ ·) := by decide
  have hfourth : twoClients =
      twoClients.take 3 ++ ⟨false, .failed 11250000000⟩ :: twoClients.drop 4 := rfl
  have hlast : twoClients = twoClients.take 5 ++ ⟨false, .timedOut 20600000000⟩ :: [] := rfl
  have hfailed := silent_clients_removed hdirectory rfl hclock hfourth (by decide) rfl
  have htimedOut := silent_clients_removed hdirectory rfl hclock hlast (by decide) rfl
  exact ⟨by decide, hfailed.1, by decide, by decide, htimedOut.2 rfl⟩

end Uplink

end VehicleLink
