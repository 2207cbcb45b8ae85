import VehicleLink.Directory.Routes
import VehicleLink.Proofs.Table

/-!
# Who owns which route

The routing table keeps one table of components for each system. Seen through `Routes.owner?` it is
a single map from pairs of a system and a component to owners, and each operation has an equation
on that map:

* `owner?_learn` : learning fills in what is missing and replaces nothing.
* `owner?_purge`, `owner?_purgeAll` : purging takes away exactly what the clients own.

A system is known for as long as it has a route. That is the invariant `Routes.Pruned`, which the
operations keep together with the absence of routes for system zero.
-/

namespace VehicleLink.Routes

/-! ## The map of owners -/

@[simp] theorem knowsSystem_empty (system : UInt8) : (∅ : Routes).knowsSystem system = false := rfl

theorem knowsSystem_eq_true_iff {r : Routes} {system : UInt8} :
    r.knowsSystem system = true ↔ ∃ components, r.systems.get? system = some components := by
  rw [knowsSystem, Table.contains, Option.isSome_iff_exists]

/-- An owner is an entry in the table of the components of a system. -/
theorem owner?_eq_some_iff {r : Routes} {system component : UInt8} {owner : SocketAddress} :
    r.owner? system component = some owner ↔
      ∃ components, r.systems.get? system = some components ∧
        components.get? component = some owner := by
  unfold owner? components
  cases h : r.systems.get? system with
  | none => simp
  | some components => simp

theorem knowsSystem_of_owner? {r : Routes} {system component : UInt8} {owner : SocketAddress}
    (h : r.owner? system component = some owner) : r.knowsSystem system = true := by
  obtain ⟨components, hsystem, -⟩ := owner?_eq_some_iff.1 h
  exact knowsSystem_eq_true_iff.2 ⟨components, hsystem⟩

/-! ## Learning -/

/-- Nobody can speak for everyone. -/
@[simp] theorem learn_zero (r : Routes) (component : UInt8) (client : SocketAddress) :
    r.learn 0 component client = r := by
  rw [learn, if_pos rfl]

/-- Systems that are not learned keep their components, and the one that is gets the component and
component zero where these are missing. -/
theorem components_learn {r : Routes} {system : UInt8} (h : system ≠ 0) (component : UInt8)
    (client : SocketAddress) (system' : UInt8) :
    (r.learn system component client).components system' =
      if system' = system then
        ((r.components system).insertIfNew component client).insertIfNew 0 client
      else r.components system' := by
  rw [learn, if_neg h]
  unfold components
  rw [Table.get?_modify, Table.get?_insertIfNew]
  split
  · simp
  · rfl

/-- Learning gives the component and component zero of its system an owner where they have none. All
other routes, and those that have an owner, stay as they are. -/
theorem owner?_learn {r : Routes} {system : UInt8} (h : system ≠ 0) (component : UInt8)
    (client : SocketAddress) (system' component' : UInt8) :
    (r.learn system component client).owner? system' component' =
      if system' = system ∧ (component' = component ∨ component' = 0) then
        some ((r.owner? system' component').getD client)
      else r.owner? system' component' := by
  unfold owner?
  rw [components_learn h]
  by_cases hsystem : system' = system
  · subst hsystem
    simp only [true_and, if_true, Table.get?_insertIfNew_insertIfNew]
  · simp only [hsystem, false_and, if_false]

/-- Learning makes the system known and forgets no other. -/
theorem knowsSystem_learn {r : Routes} {system : UInt8} (h : system ≠ 0) (component : UInt8)
    (client : SocketAddress) (system' : UInt8) :
    (r.learn system component client).knowsSystem system' = true ↔
      system' = system ∨ r.knowsSystem system' = true := by
  rw [learn, if_neg h]
  simp only [knowsSystem, Table.contains, Table.get?_modify, Table.get?_insertIfNew]
  by_cases hsystem : system' = system
  · simp [hsystem]
  · simp [hsystem]

/-! ## Purging -/

/-- Purging takes away the routes that the client owns and no others. -/
theorem owner?_purge (r : Routes) (client : SocketAddress) (system component : UInt8) :
    (r.purge client).owner? system component =
      (r.owner? system component).filter (· != client) := by
  apply Option.ext
  intro owner
  simp only [owner?_eq_some_iff, purge, Table.get?_filter, Table.get?_map,
    Option.filter_eq_some_iff, Option.map_eq_some_iff]
  constructor
  · rintro ⟨_, ⟨⟨components, hsystem, rfl⟩, -⟩, howner⟩
    rw [Table.get?_filter, Option.filter_eq_some_iff] at howner
    exact ⟨⟨components, hsystem, howner.1⟩, howner.2⟩
  · rintro ⟨⟨components, hsystem, howner⟩, hother⟩
    have hkept : (components.filter fun _ a => a != client).get? component = some owner := by
      rw [Table.get?_filter, Option.filter_eq_some_iff]
      exact ⟨howner, hother⟩
    -- A system with a route left is not empty, so it survives the pruning.
    refine ⟨_, ⟨⟨components, hsystem, rfl⟩, ?_⟩, hkept⟩
    rw [Bool.not_eq_true', Table.isEmpty_eq_false_iff]
    exact ⟨component, owner, hkept⟩

/-- A route is left exactly if its owner is none of the clients that are purged. Induction on
these. -/
theorem owner?_purgeAll {r : Routes} {clients : List SocketAddress} {system component : UInt8}
    {owner : SocketAddress} :
    (r.purgeAll clients).owner? system component = some owner ↔
      r.owner? system component = some owner ∧ owner ∉ clients := by
  induction clients generalizing r with
  | nil =>
    have hnil : r.purgeAll [] = r := rfl
    simp [hnil]
  | cons client rest ih =>
    have hcons : r.purgeAll (client :: rest) = (r.purge client).purgeAll rest := rfl
    rw [hcons, ih, owner?_purge, Option.filter_eq_some_iff, List.mem_cons, bne_iff_ne,
      not_or, and_assoc]

/-- After purging, no route leads to the clients that were purged. -/
theorem owner?_purgeAll_ne {clients : List SocketAddress} {client : SocketAddress}
    (h : client ∈ clients) (r : Routes) (system component : UInt8) :
    (r.purgeAll clients).owner? system component ≠ some client := by
  intro howner
  exact (owner?_purgeAll.1 howner).2 h

/-! ## Known systems -/

/-- Every known system has a route, and system zero is unknown. -/
structure Pruned (r : Routes) : Prop where
  /-- A system is forgotten with its last route. -/
  hasRoute : ∀ {system}, r.knowsSystem system = true →
    ∃ component owner, r.owner? system component = some owner
  /-- Messages for system zero are for everyone and need no route. -/
  zero_unknown : r.knowsSystem 0 = false

/-- System zero has no route, as it is not known. -/
theorem Pruned.owner?_zero {r : Routes} (h : r.Pruned) (component : UInt8) :
    r.owner? 0 component = none := by
  cases hroute : r.owner? 0 component with
  | none => rfl
  | some owner => exact absurd (knowsSystem_of_owner? hroute) (by rw [h.zero_unknown]; decide)

theorem pruned_empty : (∅ : Routes).Pruned where
  hasRoute h := by simp at h
  zero_unknown := rfl

/-- A system that gets known by learning has the route that was learned. -/
theorem Pruned.learn {r : Routes} (h : r.Pruned) (system component : UInt8)
    (client : SocketAddress) : (r.learn system component client).Pruned := by
  by_cases hzero : system = 0
  · rw [hzero, learn_zero]
    exact h
  · refine ⟨?_, ?_⟩
    · intro system' hknown
      rcases (knowsSystem_learn hzero component client system').1 hknown with rfl | hold
      -- The system is the one that was learned, so that the component has an owner now, the old one
      -- or the client.
      · refine ⟨component, (r.owner? system' component).getD client, ?_⟩
        rw [owner?_learn hzero, if_pos ⟨rfl, Or.inl rfl⟩]
      · obtain ⟨component', owner, howner⟩ := h.hasRoute hold
        refine ⟨component', owner, ?_⟩
        rw [owner?_learn hzero, howner]
        split <;> rfl
    -- System zero is never learned, and it was not known before.
    · rw [Bool.eq_false_iff, Ne, knowsSystem_learn hzero]
      rintro (hsystem | hold)
      · exact hzero hsystem.symm
      · rw [h.zero_unknown] at hold
        exact absurd hold (by decide)

/-- A system that is still known after a purge has a route left, since it would have been forgotten
otherwise. -/
theorem Pruned.purge {r : Routes} (h : r.Pruned) (client : SocketAddress) :
    (r.purge client).Pruned := by
  refine ⟨?_, ?_⟩
  · intro system hknown
    obtain ⟨components, hsystem⟩ := knowsSystem_eq_true_iff.1 hknown
    -- What passed the pruning has an entry.
    have hleft : ∃ component owner, components.get? component = some owner := by
      have hfilter := hsystem
      rw [Routes.purge, Table.get?_filter, Option.filter_eq_some_iff] at hfilter
      rw [← Table.isEmpty_eq_false_iff]
      simpa using hfilter.2
    obtain ⟨component, owner, howner⟩ := hleft
    exact ⟨component, owner, owner?_eq_some_iff.2 ⟨components, hsystem, howner⟩⟩
  · rw [Bool.eq_false_iff]
    intro hknown
    obtain ⟨components, hsystem⟩ := knowsSystem_eq_true_iff.1 hknown
    rw [Routes.purge, Table.get?_filter, Table.get?_map, Option.filter_eq_some_iff,
      Option.map_eq_some_iff] at hsystem
    obtain ⟨⟨old, hold, -⟩, -⟩ := hsystem
    have hzero := knowsSystem_eq_true_iff.2 ⟨old, hold⟩
    rw [h.zero_unknown] at hzero
    exact absurd hzero (by decide)

theorem Pruned.purgeAll {r : Routes} (h : r.Pruned) (clients : List SocketAddress) :
    (r.purgeAll clients).Pruned := by
  induction clients generalizing r with
  | nil => exact h
  | cons client rest ih => exact ih (h.purge client)

end VehicleLink.Routes
