import VehicleLink.Proofs.Directory.Consistency

/-!
# Who gets a message

The recipients of a message are found by asking the routes about every registered client. Routes
lead to registered clients only, so nobody whom the routes name is missed: a message for a component
goes to exactly the client that it resolves to (`Consistent.recipients_component`), one for a system
to exactly the owners of its routes (`Consistent.mem_recipients_system`).
-/

namespace VehicleLink.Routes

variable {r : Routes} {client : SocketAddress} {system component : UInt8}

theorem mem_values_components :
    client ∈ (r.components system).values ↔
      ∃ owned, r.owner? system owned = some client :=
  Table.mem_values_iff

/-! ## Whom a message reaches -/

@[simp] theorem reaches_none : r.reaches client none = true := rfl

@[simp] theorem reaches_zero (component : Option UInt8) :
    r.reaches client (some ⟨0, component⟩) = true := by
  simp only [reaches, if_true]

/-- A message for a whole system goes to the owners of its routes. -/
theorem reaches_system (h : system ≠ 0) {component : Option UInt8}
    (hall : component = none ∨ component = some 0) :
    r.reaches client (some ⟨system, component⟩) = true ↔
      ∃ owned, r.owner? system owned = some client := by
  rw [← mem_values_components, ← List.contains_iff_mem]
  rcases hall with rfl | rfl
  · simp only [reaches, if_neg h]
  · simp only [reaches, if_neg h]

/-- A message for a component goes to the client that it resolves to. -/
theorem reaches_component (h : system ≠ 0) (hcomponent : component ≠ 0) :
    r.reaches client (some ⟨system, some component⟩) = true ↔
      r.resolve? system component = some client := by
  simp only [reaches, if_neg h, beq_iff_eq]

/-- A message for a component never goes to somebody without a route of its system. -/
theorem owner?_of_resolve? (h : r.resolve? system component = some client) :
    ∃ owned, r.owner? system owned = some client := by
  rcases Option.or_eq_some_iff.1 h with hexact | ⟨-, hzero⟩
  · exact ⟨component, hexact⟩
  · exact ⟨0, hzero⟩

theorem mem_recipients {clients : List SocketAddress} {targets : Option Targets} :
    client ∈ r.recipients clients targets ↔
      client ∈ clients ∧ r.reaches client targets = true :=
  List.mem_filter

/-- Of the clients that are asked about, only the one that a component resolves to gets its
messages. No client is listed twice, so that one owner means one datagram. -/
theorem recipients_component {clients : List SocketAddress} (hnodup : clients.Nodup)
    (h : system ≠ 0) (hcomponent : component ≠ 0) :
    r.recipients clients (some ⟨system, some component⟩) =
      (r.resolve? system component).toList.filter (· ∈ clients) := by
  unfold recipients
  cases hresolve : r.resolve? system component with
  | none =>
    refine List.filter_eq_nil_iff.2 fun client _ hreaches => ?_
    rw [reaches_component h hcomponent, hresolve] at hreaches
    cases hreaches
  | some owner =>
    have howner : ∀ client ∈ clients,
        r.reaches client (some ⟨system, some component⟩) = (client == owner) := by
      intro client _
      rw [Bool.eq_iff_iff, reaches_component h hcomponent, hresolve, Option.some.injEq, beq_iff_eq,
        eq_comm]
    -- Only the owner passes, and it is listed once at most.
    rw [List.filter_congr howner, List.filter_beq, hnodup.count]
    by_cases hmem : owner ∈ clients <;> simp [hmem]

end VehicleLink.Routes

namespace VehicleLink.Directory

variable {d : Directory} {system component : UInt8}

theorem nodup_clients (d : Directory) : d.clients.Nodup := d.registry.clients.nodup_keys

/-- Nobody gets a message twice. -/
theorem nodup_recipients (d : Directory) (targets : Option Targets) :
    (d.recipients targets).Nodup :=
  d.nodup_clients.filter _

theorem recipients_subset_clients (d : Directory) (targets : Option Targets) :
    d.recipients targets ⊆ d.clients :=
  List.filter_sublist.subset

/-- Those who get a message are clients, and the primary controller is none. -/
theorem primary_notMem_recipients (h : d.registry.Apart) (targets : Option Targets) :
    d.registry.primary ∉ d.recipients targets :=
  fun hmem => h (d.recipients_subset_clients targets hmem)

/-- Whatever others do meanwhile, the primary controller does not become a recipient. -/
theorem primary_notMem_recipients_after (h : d.registry.Apart) (steps : List Step)
    (targets : Option Targets) : d.registry.primary ∉ (d.after steps).recipients targets := by
  rw [← primary_after d steps]
  exact primary_notMem_recipients (apart_after h steps) targets

theorem recipients_of_everyone {targets : Option Targets}
    (h : ∀ client, d.routes.reaches client targets = true) : d.recipients targets = d.clients :=
  List.filter_eq_self.2 fun client _ => h client

/-- Among the registered clients are all owners of routes, so that none of these is missed. -/
theorem Consistent.mem_recipients_system (hd : d.Consistent) (h : system ≠ 0)
    {component : Option UInt8} (hall : component = none ∨ component = some 0)
    {client : SocketAddress} :
    client ∈ d.recipients (some ⟨system, component⟩) ↔
      ∃ owned, d.routes.owner? system owned = some client := by
  rw [recipients, Routes.mem_recipients, Routes.reaches_system h hall]
  constructor
  · rintro ⟨-, hroute⟩
    exact hroute
  · rintro ⟨owned, howner⟩
    exact ⟨hd.owner_mem howner, owned, howner⟩

/-- A known system has a route, hence somebody to go to. -/
theorem Consistent.recipients_system_ne_nil (hd : d.Consistent) (h : system ≠ 0)
    {component : Option UInt8} (hall : component = none ∨ component = some 0) :
    d.recipients (some ⟨system, component⟩) ≠ [] ↔ d.routes.knowsSystem system = true := by
  constructor
  · intro hsomebody
    obtain ⟨client, hclient⟩ := List.exists_mem_of_ne_nil _ hsomebody
    obtain ⟨owned, howner⟩ := (hd.mem_recipients_system h hall).1 hclient
    exact Routes.knowsSystem_of_owner? howner
  · intro hknown
    obtain ⟨owned, client, howner⟩ := hd.pruned.hasRoute hknown
    exact List.ne_nil_of_mem ((hd.mem_recipients_system h hall).2 ⟨owned, howner⟩)

/-- As routes lead to clients, whoever a component resolves to is asked about. -/
theorem Consistent.recipients_component (hd : d.Consistent) (h : system ≠ 0)
    (hcomponent : component ≠ 0) :
    d.recipients (some ⟨system, some component⟩) =
      (d.routes.resolve? system component).toList := by
  rw [recipients, Routes.recipients_component d.nodup_clients h hcomponent]
  -- The owner of a route is among the clients that are asked about.
  refine List.filter_eq_self.2 fun client hclient => decide_eq_true ?_
  obtain ⟨owned, howner⟩ := Routes.owner?_of_resolve? (Option.mem_toList.1 hclient)
  exact hd.owner_mem howner

/-- The client of a component is one of those of its system. Both go to everyone for system zero. -/
theorem Consistent.recipients_component_subset (hd : d.Consistent) (system component : UInt8) :
    d.recipients (some ⟨system, some component⟩) ⊆ d.recipients (some ⟨system, some 0⟩) := by
  by_cases hzero : system = 0
  · subst hzero
    rw [recipients_of_everyone fun _ => Routes.reaches_zero (some 0)]
    exact d.recipients_subset_clients _
  -- Whoever a component resolves to owns some route of its system.
  · intro client hclient
    rw [hd.mem_recipients_system hzero (Or.inr rfl)]
    by_cases hall : component = 0
    · exact (hd.mem_recipients_system hzero (Or.inr (congrArg some hall))).1 hclient
    · rw [hd.recipients_component hzero hall, Option.mem_toList] at hclient
      exact Routes.owner?_of_resolve? hclient

/-- **A message goes to exactly those whom it is for.** Whatever senders were heard and removed
before: nobody gets a message twice, and the primary controller, which is served apart, gets none. A
message for everyone goes to all clients; one for a system to the owners of its routes, of which
there is one as long as the system is known; one for a component to the client that it resolves to,
if there is one. So a component is served within its system, and a system within everyone. -/
theorem delivery_exact (primary : SocketAddress) (timeout : Nat) (operations : List Operation) :
    let d := (empty primary timeout).performAll operations
    (∀ targets, (d.recipients targets).Nodup ∧ primary ∉ d.recipients targets) ∧
    (d.recipients none = d.clients ∧
      ∀ component, d.recipients (some ⟨0, component⟩) = d.clients) ∧
    (∀ system ≠ 0, ∀ component, component = none ∨ component = some 0 →
      (∀ client, client ∈ d.recipients (some ⟨system, component⟩) ↔
        ∃ owned, d.routes.owner? system owned = some client) ∧
      (d.recipients (some ⟨system, component⟩) ≠ [] ↔ d.routes.knowsSystem system = true)) ∧
    (∀ system ≠ 0, ∀ component ≠ 0,
      d.recipients (some ⟨system, some component⟩) =
        (d.routes.resolve? system component).toList) ∧
    ∀ system component,
      d.recipients (some ⟨system, some component⟩) ⊆ d.recipients (some ⟨system, some 0⟩) ∧
      d.recipients (some ⟨system, some 0⟩) ⊆ d.recipients none := by
  intro d
  -- All five parts rest on what every history keeps: routes lead to clients, and the primary
  -- controller is none.
  have hd : d.Consistent := (consistent_empty primary timeout).performAll operations
  have hprimary : d.registry.primary = primary := primary_performAll _ operations
  have hapart : primary ∉ d.clients := hprimary ▸ hd.apart
  have heveryone : d.recipients none = d.clients :=
    recipients_of_everyone fun _ => Routes.reaches_none
  refine ⟨?_, ⟨heveryone, ?_⟩, ?_, ?_, ?_⟩
  · intro targets
    exact ⟨d.nodup_recipients targets,
      fun hmem => hapart (d.recipients_subset_clients targets hmem)⟩
  · intro component
    exact recipients_of_everyone fun _ => Routes.reaches_zero component
  · intro system hsystem component hall
    exact ⟨fun client => hd.mem_recipients_system hsystem hall,
      hd.recipients_system_ne_nil hsystem hall⟩
  · intro system hsystem component hcomponent
    exact hd.recipients_component hsystem hcomponent
  · intro system component
    exact ⟨hd.recipients_component_subset system component,
      heveryone ▸ d.recipients_subset_clients _⟩

/-- Two clients speak for system 1, the first of them also for component zero. Once the first is
removed, the system is still known, but nobody stands in for its unknown components. -/
example :
    let first : SocketAddress := .v4 ⟨10, 0, 0, 2⟩ 14551
    let second : SocketAddress := .v4 ⟨10, 0, 0, 3⟩ 14551
    let d := (empty (.v4 ⟨10, 0, 0, 1⟩ 14550) 10).performAll
      [.registerSource first 1 1 0, .registerSource second 1 2 8]
    d.recipients (some ⟨1, some 7⟩) = [first] ∧
      (d.purge 11).recipients (some ⟨1, some 7⟩) = [] ∧
      (d.purge 11).recipients (some ⟨1, none⟩) = [second] := by
  decide

end VehicleLink.Directory
