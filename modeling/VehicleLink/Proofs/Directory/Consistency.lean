import VehicleLink.Directory.Basic
import VehicleLink.Proofs.Directory.Registry
import VehicleLink.Proofs.Directory.Routes

/-!
# Clients and routes stay in step

The registry and the routing table are two tables that are changed one after the other. The
invariant `Directory.Consistent` ties them together: routes lead to registered clients only. Every
whole operation keeps it (`Consistent.perform`), hence every history of operations does
(`routes_and_clients_agree`).

Between the two steps of an operation the invariant may be broken. What holds even then is that the
primary controller is not registered (`Reachable.apart`): that much is a matter of the registry
alone.
-/

namespace VehicleLink.Directory

/-! ## Single steps -/

/-- The directories that can come about, also between the two steps of an operation and in whatever
order the steps of several threads are taken. -/
def Reachable (d : Directory) : Prop :=
  ∃ primary timeout steps, d = (empty primary timeout).after steps

theorem registry_apply (d : Directory) (step : Step) :
    ∃ clients, (d.apply step).registry = { d.registry with clients } := by
  cases step with
  | contact sender now => exact ⟨_, d.registry.contact_eq sender now⟩
  | learn | expire | forget | clearClients | clearRoutes => exact ⟨_, rfl⟩

/-- Steps change who is registered, but not how long a client may be silent and who is the primary
controller. -/
theorem registry_after (d : Directory) (steps : List Step) :
    ∃ clients, (d.after steps).registry = { d.registry with clients } := by
  induction steps generalizing d with
  | nil => exact ⟨d.registry.clients, rfl⟩
  | cons step rest ih =>
    obtain ⟨_, hstep⟩ := d.registry_apply step
    obtain ⟨clients, hrest⟩ := ih (d.apply step)
    rw [hstep] at hrest
    exact ⟨clients, hrest⟩

/-- The primary controller stays the same, whatever others do. -/
theorem primary_after (d : Directory) (steps : List Step) :
    (d.after steps).registry.primary = d.registry.primary := by
  obtain ⟨_, hregistry⟩ := d.registry_after steps
  rw [hregistry]

theorem apart_apply {d : Directory} (h : d.registry.Apart) (step : Step) :
    (d.apply step).registry.Apart := by
  cases step with
  | contact sender now => exact h.contact sender now
  | expire now => exact h.purge now
  | clearClients => exact Registry.apart_clear d.registry
  | learn | forget | clearRoutes => exact h

theorem apart_after {d : Directory} (h : d.registry.Apart) (steps : List Step) :
    (d.after steps).registry.Apart := by
  induction steps generalizing d with
  | nil => exact h
  | cons step rest ih => exact ih (apart_apply h step)

theorem apart_empty (primary : SocketAddress) (timeout : Nat) :
    (empty primary timeout).registry.Apart := by
  simp [empty, Registry.Apart, Registry.addresses, Table.keys, EmptyCollection.emptyCollection]

/-- The primary controller is never registered. -/
theorem Reachable.apart {d : Directory} (h : d.Reachable) : d.registry.Apart := by
  obtain ⟨primary, timeout, steps, rfl⟩ := h
  exact apart_after (apart_empty primary timeout) steps

/-- The steps of an operation. The primary controller is heard, but nothing is learned from it. -/
def steps (d : Directory) : Operation → List Step
  | .registerSource sender system component now =>
    .contact sender now :: (d.registry.admit? sender).toList.map (.learn system component)
  | .purge now => [.expire now, .forget ((d.registry.expired now).map Client.address)]
  | .clear => [.clearClients, .clearRoutes]

theorem after_append (d : Directory) (first second : List Step) :
    d.after (first ++ second) = (d.after first).after second :=
  List.foldl_append

/-- An operation is its steps, taken without anybody coming between. -/
theorem after_steps (d : Directory) (operation : Operation) :
    d.after (d.steps operation) = d.perform operation := by
  cases operation with
  | registerSource sender system component now =>
    cases hadmit : d.registry.admit? sender with
    | none | some =>
      simp only [perform, registerSource, steps, hadmit]
      rfl
  | purge now => rfl
  | clear => rfl

/-- The steps of some operations, one after the other. -/
def stepsAll (d : Directory) : List Operation → List Step
  | [] => []
  | operation :: rest => d.steps operation ++ (d.perform operation).stepsAll rest

theorem after_stepsAll (d : Directory) (operations : List Operation) :
    d.after (d.stepsAll operations) = d.performAll operations := by
  induction operations generalizing d with
  | nil => rfl
  | cons operation rest ih =>
    rw [stepsAll, after_append, after_steps, ih]
    rfl

theorem registry_performAll (d : Directory) (operations : List Operation) :
    ∃ clients, (d.performAll operations).registry = { d.registry with clients } := by
  rw [← after_stepsAll]
  exact d.registry_after _

theorem primary_performAll (d : Directory) (operations : List Operation) :
    (d.performAll operations).registry.primary = d.registry.primary := by
  obtain ⟨_, hregistry⟩ := d.registry_performAll operations
  rw [hregistry]

theorem timeout_performAll (d : Directory) (operations : List Operation) :
    (d.performAll operations).registry.timeout = d.registry.timeout := by
  obtain ⟨_, hregistry⟩ := d.registry_performAll operations
  rw [hregistry]

/-! ## Whole operations -/

/-- What holds of clients and routes between two operations. -/
structure Consistent (d : Directory) : Prop where
  keyed : d.registry.Keyed
  apart : d.registry.Apart
  /-- Known systems have routes, and system zero is unknown. -/
  pruned : d.routes.Pruned
  /-- Every route leads to a registered client. -/
  owner_mem : ∀ {system component owner},
    d.routes.owner? system component = some owner → owner ∈ d.clients

theorem consistent_empty (primary : SocketAddress) (timeout : Nat) :
    (empty primary timeout).Consistent where
  keyed _ _ h := nomatch h
  apart := apart_empty primary timeout
  pruned := Routes.pruned_empty
  owner_mem h := nomatch h

/-- The sender is registered before its route is learned, so that the new route leads to a
client. -/
theorem Consistent.registerSource {d : Directory} (h : d.Consistent) (sender : SocketAddress)
    (system component : UInt8) (now : Nat) :
    (d.registerSource sender system component now).Consistent := by
  refine ⟨h.keyed.contact sender now, h.apart.contact sender now, ?_, ?_⟩
  · unfold Directory.registerSource
    cases d.registry.admit? sender with
    | none => exact h.pruned
    | some client => exact h.pruned.learn system component client
  -- A route leads to a client that was registered before, or to the sender, which is registered
  -- now.
  · intro system' component' owner howner
    show owner ∈ (d.registry.contact sender now).addresses
    rw [Registry.mem_addresses_contact]
    by_cases hprimary : sender = d.registry.primary
    · have hadmit : d.registry.admit? sender = none := if_pos hprimary
      simp only [Directory.registerSource, hadmit] at howner
      exact Or.inr (h.owner_mem howner)
    · have hadmit : d.registry.admit? sender = some sender := if_neg hprimary
      simp only [Directory.registerSource, hadmit] at howner
      by_cases hzero : system = 0
      · rw [hzero, Routes.learn_zero] at howner
        exact Or.inr (h.owner_mem howner)
      · rw [Routes.owner?_learn hzero] at howner
        split at howner
        · -- The route is one of those that were filled in where missing.
          cases hold : d.routes.owner? system' component' with
          | none =>
            rw [hold, Option.getD_none, Option.some.injEq] at howner
            exact Or.inl ⟨howner.symm, hprimary⟩
          | some old =>
            rw [hold, Option.getD_some, Option.some.injEq] at howner
            exact Or.inr (howner ▸ h.owner_mem hold)
        · exact Or.inr (h.owner_mem howner)

/-- A route that is left after a purge has an owner that was registered and is not removed. -/
theorem Consistent.purge {d : Directory} (h : d.Consistent) (now : Nat) :
    (d.purge now).Consistent := by
  refine ⟨h.keyed.purge now, h.apart.purge now, h.pruned.purgeAll _, ?_⟩
  intro system component owner howner
  obtain ⟨hold, hkept⟩ := Routes.owner?_purgeAll.1 howner
  exact Registry.mem_addresses_purge.2 ⟨h.owner_mem hold, hkept⟩

theorem consistent_clear (d : Directory) : d.clear.Consistent where
  keyed := Registry.keyed_clear d.registry
  apart := Registry.apart_clear d.registry
  pruned := Routes.pruned_empty
  owner_mem h := nomatch h

/-- Every whole operation keeps clients and routes in step. -/
theorem Consistent.perform {d : Directory} (h : d.Consistent) (operation : Operation) :
    (d.perform operation).Consistent := by
  cases operation with
  | registerSource sender system component now =>
    exact h.registerSource sender system component now
  | purge now => exact h.purge now
  | clear => exact consistent_clear d

theorem Consistent.performAll {d : Directory} (h : d.Consistent) (operations : List Operation) :
    (d.performAll operations).Consistent := by
  induction operations generalizing d with
  | nil => exact h
  | cons operation rest ih => exact ih (h.perform operation)

/-! ## All histories -/

/-- **Clients and routes agree after every history.** Whatever senders were heard and whenever the
silent ones were removed, clocks that step back included: routes lead to registered clients, of
which the primary controller is none; system zero has no route and every known system has one; a
client is registered under its own address. So nothing leads to a client that the next purge
removes. -/
theorem routes_and_clients_agree (primary : SocketAddress) (timeout : Nat)
    (operations : List Operation) :
    let d := (empty primary timeout).performAll operations
    d.registry.primary = primary ∧
    (∀ system component owner, d.routes.owner? system component = some owner →
      owner ∈ d.clients ∧ owner ≠ primary) ∧
    primary ∉ d.clients ∧
    (d.routes.knowsSystem 0 = false ∧ ∀ component, d.routes.owner? 0 component = none) ∧
    (∀ system, d.routes.knowsSystem system = true →
      ∃ component owner, d.routes.owner? system component = some owner) ∧
    (∀ address client, d.registry.clients.get? address = some client →
      client.address = address) ∧
    ∀ now, ∀ removed ∈ (d.registry.expired now).map Client.address,
      removed ∉ (d.purge now).clients ∧
      ∀ system component, (d.purge now).routes.owner? system component ≠ some removed := by
  intro d
  have hd : d.Consistent := (consistent_empty primary timeout).performAll operations
  have hprimary : d.registry.primary = primary := primary_performAll _ operations
  have hapart : primary ∉ d.clients := hprimary ▸ hd.apart
  refine ⟨hprimary, ?_, hapart, ⟨hd.pruned.zero_unknown, hd.pruned.owner?_zero⟩, ?_, ?_, ?_⟩
  · intro system component owner howner
    have hmem := hd.owner_mem howner
    -- Whoever is the primary controller is no client.
    exact ⟨hmem, fun heq => hapart (heq ▸ hmem)⟩
  · intro system hknown
    exact hd.pruned.hasRoute hknown
  · intro address client hclient
    exact hd.keyed hclient
  · intro now removed hremoved
    refine ⟨fun hmem => (Registry.mem_addresses_purge.1 hmem).2 hremoved, ?_⟩
    intro system component
    exact Routes.owner?_purgeAll_ne hremoved d.routes system component

end VehicleLink.Directory
