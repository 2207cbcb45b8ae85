import Mathlib.Data.List.Nodup
import Mathlib.Data.Prod.Basic
import VehicleLink.Proofs.Directory.Delivery

/-!
# One flat map of routes

Routes are kept in a table of tables, from which a system goes with its last route. Nobody who uses
them needs to know. Whatever is done to the routes, they answer as one finite map from pairs of a
system and a component to owners would, in which the first owner stays (`flat_first_owner_stays`).

The map is read off the tables by `flatten`. A change to the tables is the same change to the map,
whose entries stand in another order then, so the two are compared by their lookups (`Represents`).
Equal lookups mean equally many entries.
-/

namespace VehicleLink

/-- The owners of routes by pairs of a system and a component. -/
abbrev FlatRoutes := Table (UInt8 × UInt8) SocketAddress

namespace Routes

/-! ## Changes -/

/-- What is done to the routes. -/
inductive Change where
  | learn (system component : UInt8) (client : SocketAddress)
  | purge (client : SocketAddress)
  | clear
deriving DecidableEq, Repr

/-- What is said to a change. -/
inductive Answer where
  /-- Whether a component got its first owner. -/
  | isNew (new : Bool)
  | removed (count : Nat)
  | done
deriving DecidableEq, Repr

namespace Change

variable {σ τ : Type}

/-- What one change after the other answers and leaves. -/
def performAll (perform : σ → Change → Answer × σ) : σ → List Change → List Answer × σ
  | s, [] => ([], s)
  | s, change :: rest =>
    let later := performAll perform (perform s change).2 rest
    ((perform s change).1 :: later.1, later.2)

/-- Two ways to perform a change that answer alike, and leave states that go together, also do so
for all changes. -/
theorem performAll_related {f : σ → Change → Answer × σ} {g : τ → Change → Answer × τ}
    {R : σ → τ → Prop}
    (hstep : ∀ s t change, R s t →
      (f s change).1 = (g t change).1 ∧ R (f s change).2 (g t change).2)
    {s : σ} {t : τ} (h : R s t) (changes : List Change) :
    (performAll f s changes).1 = (performAll g t changes).1 ∧
      R (performAll f s changes).2 (performAll g t changes).2 := by
  induction changes generalizing s t with
  | nil => exact ⟨rfl, h⟩
  | cons change rest ih =>
    obtain ⟨hanswer, hnext⟩ := hstep s t change h
    obtain ⟨hanswers, hlast⟩ := ih hnext
    exact ⟨List.cons_eq_cons.2 ⟨hanswer, hanswers⟩, hlast⟩

end Change

/-- Performs a change on the routes. -/
def change (r : Routes) : Change → Answer × Routes
  | .learn system component client =>
    (.isNew (r.isNew system component), r.learn system component client)
  | .purge client => (.removed (r.purgedCount client), r.purge client)
  | .clear => (.done, ∅)

/-- Performs changes one after the other. -/
def changeAll (r : Routes) (changes : List Change) : List Answer × Routes :=
  Change.performAll change r changes

/-- What every change of some kind keeps, all changes of that kind keep. -/
theorem changeAll_kept {P : Routes → Prop} {K : Change → Prop}
    (hstep : ∀ r change, K change → P r → P (r.change change).2) {r : Routes} (h : P r)
    {changes : List Change} (hkind : ∀ change ∈ changes, K change) :
    P (r.changeAll changes).2 := by
  induction changes generalizing r with
  | nil => exact h
  | cons change rest ih =>
    rw [List.forall_mem_cons] at hkind
    exact ih (hstep r change hkind.1 h) hkind.2

end Routes

namespace FlatRoutes

/-- Enters the client as the owner of the component, and of component zero, where there is none. -/
def learn (t : FlatRoutes) (system component : UInt8) (client : SocketAddress) : FlatRoutes :=
  if system = 0 then t
  else (t.insertIfNew (system, component) client).insertIfNew (system, 0) client

/-- Performs a change on the map. -/
def change (t : FlatRoutes) : Routes.Change → Routes.Answer × FlatRoutes
  | .learn system component client =>
    (.isNew (system != 0 && !t.contains (system, component)), learn t system component client)
  | .purge client => (.removed (t.values.count client), t.filter fun _ owner => owner != client)
  | .clear => (.done, ∅)

/-- Performs changes one after the other. -/
def changeAll (t : FlatRoutes) (changes : List Routes.Change) : List Routes.Answer × FlatRoutes :=
  Routes.Change.performAll change t changes

/-- Learning fills in what is missing in the map, just as it does in the tables. -/
theorem get?_learn {t : FlatRoutes} {system : UInt8} (h : system ≠ 0) (component : UInt8)
    (client : SocketAddress) (system' component' : UInt8) :
    (learn t system component client).get? (system', component') =
      if system' = system ∧ (component' = component ∨ component' = 0) then
        some ((t.get? (system', component')).getD client)
      else t.get? (system', component') := by
  rw [learn, if_neg h, Table.get?_insertIfNew_insertIfNew]
  simp only [Prod.mk.injEq, ← and_or_left]

end FlatRoutes

namespace Routes

variable {r : Routes} {t : FlatRoutes}

/-! ## The map that the tables stand for -/

/-- All entries of the tables of the components, with their systems. -/
def flatten (r : Routes) : FlatRoutes where
  entries := r.systems.entries.flatMap fun s => s.2.entries.map fun c => ((s.1, c.1), c.2)
  distinct := by
    rw [List.map_flatMap, List.nodup_flatMap]
    refine ⟨?_, ?_⟩
    -- Within one system the components are distinct.
    · intro s _
      rw [List.map_map]
      have hdistinct := s.2.distinct.map (Prod.mk_right_injective s.1)
      rwa [List.map_map] at hdistinct
    -- Entries of two systems differ in the system.
    · refine (List.pairwise_map.1 r.systems.distinct).imp ?_
      intro s s' hne key hkey hkey'
      simp only [List.mem_map, List.map_map, Function.comp_apply] at hkey hkey'
      obtain ⟨c, -, rfl⟩ := hkey
      obtain ⟨c', -, hsame⟩ := hkey'
      exact hne (congrArg Prod.fst hsame).symm

/-- A lookup in the map is one in the table of the system. -/
theorem get?_flatten (r : Routes) (system component : UInt8) :
    r.flatten.get? (system, component) = r.owner? system component := by
  apply Table.get?_eq_of_forall
  intro owner
  simp only [flatten, List.mem_flatMap, List.mem_map, Prod.mk.injEq, owner?_eq_some_iff,
    Table.get?_eq_some_iff]
  constructor
  · rintro ⟨⟨s, components⟩, hsystem, ⟨c, a⟩, hcomponent, ⟨rfl, rfl⟩, rfl⟩
    exact ⟨components, hsystem, hcomponent⟩
  · rintro ⟨components, hsystem, hcomponent⟩
    exact ⟨(system, components), hsystem, (component, owner), hcomponent, ⟨rfl, rfl⟩, rfl⟩

theorem values_flatten (r : Routes) :
    r.flatten.values = r.systems.values.flatMap Table.values := by
  simp only [flatten, Table.values, List.map_flatMap, List.flatMap_map, List.map_map,
    Function.comp_def]

theorem size_flatten (r : Routes) : r.flatten.size = r.size := by
  rw [size, ← values_flatten, Table.values, List.length_map, Table.size]

/-- The routes of a client are counted over all systems. -/
theorem count_flatten (r : Routes) (client : SocketAddress) :
    r.flatten.values.count client = r.purgedCount client := by
  -- Over the systems, with what was removed from those before.
  have hsum : ∀ (tables : List ComponentRoutes) (removed : Nat),
      tables.foldl (fun removed components =>
          removed + (components.size - (components.filter fun _ a => a != client).size)) removed =
        removed + (tables.flatMap Table.values).count client := by
    intro tables
    induction tables with
    | nil => exact fun removed => rfl
    | cons components rest ih =>
      intro removed
      rw [List.foldl_cons, ih, Table.size_sub_size_filter, List.flatMap_cons, List.count_append,
        Nat.add_assoc]
  rw [purgedCount, hsum, Nat.zero_add, values_flatten]

/-! ## Changes in step -/

/-- The tables answer every lookup as the map does, and hold nothing that cannot be looked up. -/
structure Represents (r : Routes) (t : FlatRoutes) : Prop where
  pruned : r.Pruned
  get?_eq : ∀ system component, r.owner? system component = t.get? (system, component)

theorem represents_empty : (∅ : Routes).Represents ∅ where
  pruned := pruned_empty
  get?_eq _ _ := rfl

theorem Represents.get?_flatten_eq (h : r.Represents t) (key : UInt8 × UInt8) :
    r.flatten.get? key = t.get? key := by
  rw [get?_flatten, h.get?_eq]

/-- A component resolves to the same client in both. -/
theorem Represents.resolve?_eq (h : r.Represents t) (system component : UInt8) :
    r.resolve? system component = (t.get? (system, component)).or (t.get? (system, 0)) := by
  rw [resolve?, h.get?_eq, h.get?_eq]

/-- A system is known exactly if the map has an entry for it. -/
theorem Represents.knowsSystem_iff (h : r.Represents t) (system : UInt8) :
    r.knowsSystem system = true ↔ ∃ component owner, t.get? (system, component) = some owner := by
  simp only [← h.get?_eq]
  constructor
  · exact h.pruned.hasRoute
  · rintro ⟨component, owner, howner⟩
    exact knowsSystem_of_owner? howner

theorem Represents.size_eq (h : r.Represents t) : r.size = t.size := by
  rw [← size_flatten, Table.size_congr h.get?_flatten_eq]

theorem Represents.purgedCount_eq (h : r.Represents t) (client : SocketAddress) :
    r.purgedCount client = t.values.count client := by
  rw [← count_flatten, Table.count_values_congr h.get?_flatten_eq]

/-- No table of components is empty, so there is a route as soon as there is a system. -/
theorem Represents.isEmpty_eq (h : r.Represents t) : r.isEmpty = t.isEmpty := by
  rw [← Bool.not_inj_iff, Bool.eq_iff_iff, Bool.not_eq_true', Bool.not_eq_true', isEmpty,
    Table.isEmpty_eq_false_iff, Table.isEmpty_eq_false_iff]
  constructor
  · rintro ⟨system, components, hsystem⟩
    obtain ⟨component, owner, howner⟩ :=
      (h.knowsSystem_iff system).1 (knowsSystem_eq_true_iff.2 ⟨components, hsystem⟩)
    exact ⟨(system, component), owner, howner⟩
  · rintro ⟨⟨system, component⟩, owner, howner⟩
    have hknown := (h.knowsSystem_iff system).2 ⟨component, owner, howner⟩
    exact ⟨system, knowsSystem_eq_true_iff.1 hknown⟩

theorem Represents.learn (h : r.Represents t) (system component : UInt8) (client : SocketAddress) :
    (r.learn system component client).Represents (FlatRoutes.learn t system component client) := by
  refine ⟨h.pruned.learn system component client, fun system' component' => ?_⟩
  by_cases hzero : system = 0
  · subst hzero
    rw [learn_zero, FlatRoutes.learn, if_pos rfl, h.get?_eq]
  · rw [owner?_learn hzero, FlatRoutes.get?_learn hzero, h.get?_eq]

theorem Represents.purge (h : r.Represents t) (client : SocketAddress) :
    (r.purge client).Represents (t.filter fun _ owner => owner != client) := by
  refine ⟨h.pruned.purge client, fun system component => ?_⟩
  rw [owner?_purge, Table.get?_filter, h.get?_eq]

/-- A change to the tables is the same change to the map, and answers the same. -/
theorem Represents.change (h : r.Represents t) (change : Change) :
    (r.change change).1 = (FlatRoutes.change t change).1 ∧
      (r.change change).2.Represents (FlatRoutes.change t change).2 := by
  cases change with
  | learn system component client =>
    refine ⟨?_, h.learn system component client⟩
    show Answer.isNew _ = Answer.isNew _
    rw [isNew, h.get?_eq, Table.contains, Option.not_isSome]
  | purge client =>
    refine ⟨?_, h.purge client⟩
    show Answer.removed _ = Answer.removed _
    rw [h.purgedCount_eq]
  | clear => exact ⟨rfl, represents_empty⟩

/-- All changes answer alike, and the tables still stand for the map after them. -/
theorem Represents.changeAll (h : r.Represents t) (changes : List Change) :
    (r.changeAll changes).1 = (FlatRoutes.changeAll t changes).1 ∧
      (r.changeAll changes).2.Represents (FlatRoutes.changeAll t changes).2 :=
  Change.performAll_related (fun _ _ change hsame => hsame.change change) h changes

/-! ## What other clients cannot do -/

/-- What a change can do to one route: nothing, give it its first owner, or take it away. -/
theorem owner?_change_cases (r : Routes) (change : Change) (system component : UInt8) :
    (r.change change).2.owner? system component = r.owner? system component ∨
    (∃ system' component' client, change = .learn system' component' client ∧
      r.owner? system component = none ∧
      (r.change change).2.owner? system component = some client) ∨
    ((r.change change).2.owner? system component = none ∧
      (change = .clear ∨
        ∃ owner, change = .purge owner ∧ r.owner? system component = some owner)) := by
  cases change with
  | learn system' component' client =>
    by_cases hzero : system' = 0
    · subst hzero
      exact Or.inl (congrArg (owner? · system component) (r.learn_zero component' client))
    · have hlearned := r.owner?_learn hzero component' client system component
      split at hlearned
      -- A component without an owner gets the client, as does component zero of a new system; any
      -- other keeps what it has.
      · cases hold : r.owner? system component with
        | none =>
          rw [hold] at hlearned
          exact Or.inr (Or.inl ⟨system', component', client, rfl, rfl, hlearned⟩)
        | some owner =>
          rw [hold] at hlearned
          exact Or.inl hlearned
      · exact Or.inl hlearned
  | purge client =>
    -- A purge filters the owners, so that only those of the client go.
    have hpurged := r.owner?_purge client system component
    cases hold : r.owner? system component with
    | none =>
      rw [hold] at hpurged
      exact Or.inl hpurged
    | some owner =>
      rw [hold, Option.filter_some] at hpurged
      by_cases hclient : owner = client
      · rw [hclient, bne_self_eq_false] at hpurged
        exact Or.inr (Or.inr ⟨hpurged, Or.inr ⟨client, rfl, congrArg some hclient⟩⟩)
      · rw [if_pos (bne_iff_ne.2 hclient)] at hpurged
        exact Or.inl hpurged
  | clear => exact Or.inr (Or.inr ⟨rfl, Or.inl rfl⟩)

/-- An owner stays until it is purged or all routes are cleared. -/
theorem owner?_changeAll {system component : UInt8} {owner : SocketAddress}
    (h : r.owner? system component = some owner) {changes : List Change}
    (hpurge : .purge owner ∉ changes) (hclear : .clear ∉ changes) :
    (r.changeAll changes).2.owner? system component = some owner := by
  -- What is kept is that this client owns this route.
  refine changeAll_kept (P := fun r => r.owner? system component = some owner)
    (K := fun change => change ≠ .purge owner ∧ change ≠ .clear) ?_ h ?_
  · rintro r change ⟨hpurge, hclear⟩ howner
    rcases r.owner?_change_cases change system component with
      hsame | ⟨_, _, _, -, hnone, -⟩ | ⟨-, rfl | ⟨other, rfl, hother⟩⟩
    · rw [hsame, howner]
    · rw [howner] at hnone
      cases hnone
    · exact absurd rfl hclear
    · rw [howner, Option.some.injEq] at hother
      exact absurd (congrArg Change.purge hother.symm) hpurge
  · intro change hmem
    exact ⟨fun heq => hpurge (heq ▸ hmem), fun heq => hclear (heq ▸ hmem)⟩

/-- Whoever owns nothing owns something only after having been heard. -/
theorem owner?_changeAll_ne {client : SocketAddress}
    (h : ∀ system component, r.owner? system component ≠ some client) {changes : List Change}
    (hlearn : ∀ system component, .learn system component client ∉ changes)
    (system component : UInt8) : (r.changeAll changes).2.owner? system component ≠ some client := by
  refine changeAll_kept
    (P := fun r => ∀ system component, r.owner? system component ≠ some client)
    (K := fun change => ∀ system component, change ≠ .learn system component client)
    ?_ h ?_ system component
  -- A change that makes the client an owner would be learning of it.
  · intro r change hchange hnone system component howner
    rcases r.owner?_change_cases change system component with
      hsame | ⟨system', component', other, rfl, -, hnew⟩ | ⟨hgone, -⟩
    · exact hnone system component (hsame.symm.trans howner)
    · rw [hnew, Option.some.injEq] at howner
      exact hchange system' component' (howner ▸ rfl)
    · rw [hgone] at howner
      cases howner
  · intro change hmem system' component' heq
    exact hlearn system' component' (heq ▸ hmem)

/-- A message for some system goes to owners of routes only. -/
theorem reaches_eq_false {client : SocketAddress} {system : UInt8} (hsystem : system ≠ 0)
    (h : ∀ component, r.owner? system component ≠ some client) (component : Option UInt8) :
    r.reaches client (some ⟨system, component⟩) = false := by
  rw [Bool.eq_false_iff]
  intro hreaches
  -- In either case whoever gets the message owns some route of the system.
  have howner : ∃ owned, r.owner? system owned = some client := by
    by_cases hall : component = none ∨ component = some 0
    · exact (reaches_system hsystem hall).1 hreaches
    · obtain ⟨c, rfl⟩ := Option.ne_none_iff_exists'.1 (not_or.1 hall).1
      have hcomponent : c ≠ 0 := fun hc => hall (Or.inr (congrArg some hc))
      exact owner?_of_resolve? ((reaches_component hsystem hcomponent).1 hreaches)
  obtain ⟨owned, howned⟩ := howner
  exact h owned howned

/-! ## The theorem -/

/-- **Routes are one flat map, in which the first owner stays.** Whatever is learned, purged and
cleared: every change answers as it does on one finite map from pairs of a system and a component to
owners, and so does every lookup afterwards. An owner stays, whatever other clients send, until it
is purged or all routes are cleared. To a client that was purged no message for a system goes until
it is heard again. -/
theorem flat_first_owner_stays (changes : List Change) :
    let r := (∅ : Routes).changeAll changes
    let t := FlatRoutes.changeAll ∅ changes
    r.1 = t.1 ∧
    (∀ system component, r.2.owner? system component = t.2.get? (system, component) ∧
      r.2.resolve? system component =
        (t.2.get? (system, component)).or (t.2.get? (system, 0))) ∧
    (∀ system, r.2.knowsSystem system = true ↔
      ∃ component owner, t.2.get? (system, component) = some owner) ∧
    r.2.size = t.2.size ∧ r.2.isEmpty = t.2.isEmpty ∧
    (∀ later system component owner, t.2.get? (system, component) = some owner →
      .purge owner ∉ later → .clear ∉ later →
      (r.2.changeAll later).2.owner? system component = some owner) ∧
    ∀ later client, (∀ system component, .learn system component client ∉ later) →
      ∀ system ≠ 0, ∀ component,
        ((r.2.purge client).changeAll later).2.reaches client (some ⟨system, component⟩) =
          false := by
  intro r t
  obtain ⟨hanswers, hsame⟩ := represents_empty.changeAll changes
  refine ⟨hanswers, fun system component => ⟨hsame.get?_eq _ _, hsame.resolve?_eq _ _⟩,
    hsame.knowsSystem_iff, hsame.size_eq, hsame.isEmpty_eq, ?_, ?_⟩
  · intro later system component owner howner hpurge hclear
    rw [← hsame.get?_eq] at howner
    exact owner?_changeAll howner hpurge hclear
  · intro later client hlearn system hsystem component
    -- Right after the purge the client owns nothing.
    refine reaches_eq_false hsystem (owner?_changeAll_ne ?_ hlearn system) component
    intro system' component' howner
    rw [owner?_purge, Option.filter_eq_some_iff, bne_self_eq_false] at howner
    cases howner.2

/-- A second client speaks for system 5, and for everyone, which nobody can. -/
def twoClients : List Change :=
  let first : SocketAddress := .v4 ⟨10, 0, 0, 2⟩ 14551
  let second : SocketAddress := .v4 ⟨10, 0, 0, 3⟩ 14551
  [.learn 5 1 first, .learn 5 2 second, .learn 0 9 second, .learn 7 1 first]

/-- The second client does not get the route of the first by speaking for it, but does once the
first was removed. -/
theorem taken_over_after_purge :
    let first : SocketAddress := .v4 ⟨10, 0, 0, 2⟩ 14551
    let second : SocketAddress := .v4 ⟨10, 0, 0, 3⟩ 14551
    let r := (∅ : Routes).changeAll (twoClients ++ [.purge second])
    let t := FlatRoutes.changeAll ∅ (twoClients ++ [.purge second])
    r.1 = [.isNew true, .isNew true, .isNew false, .isNew true, .removed 1] ∧
    t.2.get? (5, 1) = some first ∧
    (r.2.changeAll [.learn 5 1 second, .purge second]).2.owner? 5 1 = some first ∧
    ((r.2.purge first).changeAll [.learn 5 1 second]).2.owner? 5 1 = some second ∧
    ∀ component,
      ((r.2.purge first).changeAll [.learn 5 1 second]).2.reaches first (some ⟨5, component⟩) =
        false := by
  intro first second r t
  obtain ⟨-, -, -, -, -, hstays, hgone⟩ := flat_first_owner_stays (twoClients ++ [.purge second])
  refine ⟨by decide, by decide, hstays _ 5 1 first (by decide) (by decide) (by decide),
    by decide, ?_⟩
  refine hgone [.learn 5 1 second] first ?_ 5 (by decide)
  intro system component hlearn
  have hclient : first = second := (Change.learn.inj (List.mem_singleton.1 hlearn)).2.2
  exact absurd hclient (by decide)

end Routes

end VehicleLink
