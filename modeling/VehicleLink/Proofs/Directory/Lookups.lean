import Mathlib.Data.List.Infix
import VehicleLink.Proofs.Directory.Delivery

/-!
# Looking up the recipients while others are at work

Finding the recipients of a message takes two steps: the clients are copied, and then the routes are
asked about the copy. In between another thread may take steps of its own. Those that come about
from whole operations fit the directory that they find (`Orderly`): a route is learned for a client
that is registered, and forgotten for clients that are not. Therefore a route whose owner stays
registered stays (`owner?_apply_of_fits`), and if a message has somebody to go to all the time, then
it goes to the client that it resolves to in the end.

There is one exception. A component without a route of its own is served by the owner of component
zero. A client that is registered after the copy was made and learns the route of the component
takes it over, and is not in the copy, so that neither of the two gets the message
(`found_or_taken_over`).
-/

namespace VehicleLink.Directory

/-! ## Steps of whole operations -/

/-- What a step of a whole operation finds. -/
def Fits (d : Directory) : Step → Prop
  | .learn _ _ client => client ∈ d.clients
  | .forget clients => ∀ client ∈ clients, client ∉ d.clients
  | .clearRoutes => d.clients = []
  | .contact .. | .expire _ | .clearClients => True

/-- Each of the steps fits the directory that it finds. -/
def Orderly (d : Directory) : List Step → Prop
  | [] => True
  | step :: rest => d.Fits step ∧ (d.apply step).Orderly rest

theorem orderly_append {d : Directory} {first second : List Step} :
    d.Orderly (first ++ second) ↔ d.Orderly first ∧ (d.after first).Orderly second := by
  induction first generalizing d with
  | nil => exact ⟨fun h => ⟨trivial, h⟩, And.right⟩
  | cons step rest ih =>
    show d.Fits step ∧ (d.apply step).Orderly (rest ++ second) ↔ _
    rw [ih, ← and_assoc]
    rfl

/-- The steps of an operation fit: its second step relies on what the first one did. -/
theorem orderly_steps (d : Directory) (operation : Operation) : d.Orderly (d.steps operation) := by
  cases operation with
  | registerSource sender system component now =>
    refine ⟨trivial, ?_⟩
    by_cases hprimary : sender = d.registry.primary
    · rw [show d.registry.admit? sender = none from if_pos hprimary]
      trivial
    · rw [show d.registry.admit? sender = some sender from if_neg hprimary]
      exact ⟨Registry.mem_addresses_contact.2 (Or.inl ⟨rfl, hprimary⟩), trivial⟩
  | purge now =>
    refine ⟨trivial, fun client hclient hmem => ?_, trivial⟩
    exact (Registry.mem_addresses_purge.1 hmem).2 hclient
  | clear => exact ⟨trivial, Registry.addresses_clear d.registry, trivial⟩

/-- The steps of all operations fit, as each operation starts from what the others left. -/
theorem orderly_stepsAll (d : Directory) (operations : List Operation) :
    d.Orderly (d.stepsAll operations) := by
  induction operations generalizing d with
  | nil => trivial
  | cons operation rest ih =>
    rw [stepsAll, orderly_append, after_steps]
    exact ⟨d.orderly_steps operation, ih _⟩

/-! ## What a step does to a route -/

variable {d : Directory} {step : Step} {system component : UInt8} {client : SocketAddress}

/-- A route stays as long as its owner is registered. -/
theorem owner?_apply_of_fits (hfits : d.Fits step) (hmem : client ∈ d.clients)
    (howner : d.routes.owner? system component = some client) :
    (d.apply step).routes.owner? system component = some client := by
  cases step with
  | contact | expire | clearClients => exact howner
  -- Routes are forgotten only for clients that are no longer registered, which this one is.
  | forget clients => exact Routes.owner?_purgeAll.2 ⟨howner, fun h => hfits client h hmem⟩
  | clearRoutes =>
    have hnone : d.clients = [] := hfits
    exact absurd (hnone ▸ hmem) List.not_mem_nil
  | learn system' component' sender =>
    show (d.routes.learn system' component' sender).owner? system component = some client
    by_cases hzero : system' = 0
    · rw [hzero, Routes.learn_zero]
      exact howner
    -- What has an owner keeps it, whoever else speaks for it.
    · rw [Routes.owner?_learn hzero, howner]
      split <;> rfl

/-- A component gets a new owner by learning only. Component zero is another matter. -/
theorem owner?_of_apply (hcomponent : component ≠ 0)
    (howner : (d.apply step).routes.owner? system component = some client) :
    d.routes.owner? system component = some client ∨ step = .learn system component client := by
  cases step with
  | contact | expire | clearClients => exact Or.inl howner
  | forget clients => exact Or.inl (Routes.owner?_purgeAll.1 howner).1
  | clearRoutes => cases howner
  | learn system' component' sender =>
    replace howner : (d.routes.learn system' component' sender).owner? system component =
        some client := howner
    by_cases hzero : system' = 0
    · rw [hzero, Routes.learn_zero] at howner
      exact Or.inl howner
    · rw [Routes.owner?_learn hzero] at howner
      split at howner
      · rename_i hlearned
        -- hnot⟩ := hlearned | The step filled in this very route, or that of component zero.
        obtain ⟨rfl, rfl | hnot⟩ := hlearned
        · cases hold : d.routes.owner? system component with
          | none =>
            rw [hold, Option.getD_none, Option.some.injEq] at howner
            exact Or.inr (howner ▸ rfl)
          | some old =>
            rw [hold, Option.getD_some] at howner
            exact Or.inl howner
        · exact absurd hnot hcomponent
      · exact Or.inl howner

/-- A client gets registered by being heard only. -/
theorem mem_clients_of_apply (h : client ∈ (d.apply step).clients) :
    client ∈ d.clients ∨ ∃ now, step = .contact client now := by
  cases step with
  | learn | forget | clearRoutes => exact Or.inl h
  | expire now => exact Or.inl (Registry.mem_addresses_purge.1 h).1
  | clearClients =>
    have hnone : client ∈ d.registry.clear.addresses := h
    rw [Registry.addresses_clear] at hnone
    exact absurd hnone List.not_mem_nil
  | contact sender now =>
    rcases Registry.mem_addresses_contact.1 h with ⟨rfl, -⟩ | hold
    · exact Or.inr ⟨now, rfl⟩
    · exact Or.inl hold

/-! ## What some steps do to a route -/

variable {steps : List Step}

/-- A component that has an owner in the end had it before or got it by learning. -/
theorem owner?_of_after (hcomponent : component ≠ 0)
    (howner : (d.after steps).routes.owner? system component = some client) :
    d.routes.owner? system component = some client ∨ .learn system component client ∈ steps := by
  induction steps generalizing d with
  | nil => exact Or.inl howner
  | cons step rest ih =>
    rcases ih howner with hbefore | hlearned
    · rcases owner?_of_apply hcomponent hbefore with hold | rfl
      · exact Or.inl hold
      · exact Or.inr List.mem_cons_self
    · exact Or.inr (List.mem_cons_of_mem step hlearned)

/-- A client in the end was one before or was heard on the way. -/
theorem mem_clients_of_after (h : client ∈ (d.after steps).clients) :
    client ∈ d.clients ∨ ∃ now, .contact client now ∈ steps := by
  induction steps generalizing d with
  | nil => exact Or.inl h
  | cons step rest ih =>
    rcases ih h with hbefore | ⟨now, hheard⟩
    · rcases mem_clients_of_apply hbefore with hold | ⟨now, rfl⟩
      · exact Or.inl hold
      · exact Or.inr ⟨now, List.mem_cons_self⟩
    · exact Or.inr ⟨now, List.mem_cons_of_mem step hheard⟩

/-- A message for the component has a registered client to go to. -/
def Serves (d : Directory) (system component : UInt8) : Prop :=
  ∃ client ∈ d.clients, d.routes.resolve? system component = some client

instance (d : Directory) (system component : UInt8) : Decidable (d.Serves system component) :=
  inferInstanceAs (Decidable (∃ client ∈ d.clients, _))

/-- A message for the component has a client to go to all the time while the steps are taken. -/
def ServesThroughout (d : Directory) (system component : UInt8) (steps : List Step) : Prop :=
  ∀ taken, taken <+: steps → (d.after taken).Serves system component

instance (d : Directory) (system component : UInt8) (steps : List Step) :
    Decidable (d.ServesThroughout system component steps) :=
  decidable_of_iff (∀ taken ∈ steps.inits, (d.after taken).Serves system component)
    (forall_congr' fun taken => imp_congr_left (List.mem_inits taken steps))

theorem ServesThroughout.now (h : d.ServesThroughout system component steps) :
    d.Serves system component :=
  h [] List.nil_prefix

theorem ServesThroughout.next (h : d.ServesThroughout system component (step :: steps)) :
    (d.apply step).ServesThroughout system component steps :=
  fun taken htaken => h (step :: taken) ((List.prefix_cons_inj step).2 htaken)

/-- The client that a component resolves to is the one that is registered. -/
theorem Serves.mem_clients (h : d.Serves system component)
    (hresolve : d.routes.resolve? system component = some client) : client ∈ d.clients := by
  obtain ⟨owner, hmem, howner⟩ := h
  rw [hresolve, Option.some.injEq] at howner
  exact howner ▸ hmem

/-- A component that has an owner keeps it, since the owner is who messages go to and so stays
registered. Induction on the steps. -/
theorem owner?_after (horderly : d.Orderly steps)
    (hserves : d.ServesThroughout system component steps)
    (howner : d.routes.owner? system component = some client) :
    (d.after steps).routes.owner? system component = some client := by
  induction steps generalizing d with
  | nil => exact howner
  | cons step rest ih =>
    have hmem : client ∈ d.clients :=
      hserves.now.mem_clients (by rw [Routes.resolve?, howner, Option.some_or])
    exact ih horderly.2 hserves.next (owner?_apply_of_fits horderly.1 hmem howner)

/-- As long as nobody takes the component over, the owner of component zero stays. -/
theorem owner?_zero_after (horderly : d.Orderly steps)
    (hserves : d.ServesThroughout system component steps)
    (hzero : d.routes.owner? system 0 = some client)
    (hnone : (d.after steps).routes.owner? system component = none) :
    (d.after steps).routes.owner? system 0 = some client := by
  induction steps generalizing d with
  | nil => exact hzero
  | cons step rest ih =>
    cases howner : d.routes.owner? system component with
    | some owner =>
      -- Then it would have an owner in the end.
      rw [owner?_after horderly hserves howner] at hnone
      cases hnone
    | none =>
      have hmem : client ∈ d.clients :=
        hserves.now.mem_clients (by rw [Routes.resolve?, howner, Option.none_or, hzero])
      exact ih horderly.2 hserves.next (owner?_apply_of_fits horderly.1 hmem hzero) hnone

/-! ## The lookup -/

/-- The recipients when the clients are copied, then the steps are taken by others, and then the
routes are asked about the copy. -/
def recipientsAcross (d : Directory) (steps : List Step) (targets : Option Targets) :
    List SocketAddress :=
  (d.after steps).routes.recipients d.clients targets

/-- With nobody coming between, this is how recipients are found. -/
theorem recipientsAcross_nil (d : Directory) (targets : Option Targets) :
    d.recipientsAcross [] targets = d.recipients targets := rfl

/-- A client that a message resolves to in the end, but that was not copied, was registered in
between and took the component over from the owner of component zero. -/
theorem taken_over_of_notMem (hcomponent : component ≠ 0) (horderly : d.Orderly steps)
    (hserves : d.ServesThroughout system component steps)
    (hresolve : (d.after steps).routes.resolve? system component = some client)
    (hcopied : client ∉ d.clients) :
    d.routes.owner? system component = none ∧ (∃ now, .contact client now ∈ steps) ∧
      .learn system component client ∈ steps := by
  have hmem : client ∈ (d.after steps).clients :=
    (hserves steps List.prefix_rfl).mem_clients hresolve
  obtain ⟨first, hfirst, hbefore⟩ := hserves.now
  -- Otherwise the client would be the first one, which was copied.
  have hother : first ≠ client := fun heq => hcopied (heq ▸ hfirst)
  cases howner : d.routes.owner? system component with
  | some owner =>
    have hkept := owner?_after horderly hserves howner
    rw [Routes.resolve?, howner, Option.some_or] at hbefore
    rw [Routes.resolve?, hkept, Option.some_or] at hresolve
    exact absurd (Option.some.inj (hbefore.symm.trans hresolve)) hother
  | none =>
    -- The first client stood in for the component, as it had no route of its own.
    rw [Routes.resolve?, howner, Option.none_or] at hbefore
    refine ⟨rfl, (mem_clients_of_after hmem).resolve_left hcopied, ?_⟩
    cases hlast : (d.after steps).routes.owner? system component with
    | none =>
      rw [Routes.resolve?, hlast, Option.none_or,
        owner?_zero_after horderly hserves hbefore hlast] at hresolve
      exact absurd (Option.some.inj hresolve) hother
    | some owner =>
      rw [Routes.resolve?, hlast, Option.some_or, Option.some.injEq] at hresolve
      subst hresolve
      refine (owner?_of_after hcomponent hlast).resolve_left fun hold => ?_
      rw [howner] at hold
      cases hold

/-- **A message for a component is lost only to a client that takes the component over.** Let the
steps of whole operations be taken in order, and let the recipients be looked up on the way: the
clients are copied after the steps `before`, and the routes are asked after the steps `between` as
well. If all that time the component resolves to a registered client, then there is one that it
resolves to in the end, and the message goes to this client alone if it was copied, and else to
nobody. The latter happens exactly if the component had no route of its own when the clients were
copied, and this client was registered and learned the route in between. -/
theorem found_or_taken_over (primary : SocketAddress) (timeout : Nat) (operations : List Operation)
    {before between later : List Step}
    (hsteps : (empty primary timeout).stepsAll operations = before ++ between ++ later)
    (hsystem : system ≠ 0) (hcomponent : component ≠ 0)
    (hserves : ((empty primary timeout).after before).ServesThroughout system component between) :
    let d := (empty primary timeout).after before
    ∃ client ∈ (d.after between).clients,
      (d.after between).routes.resolve? system component = some client ∧
      d.recipientsAcross between (some ⟨system, some component⟩) =
        (if client ∈ d.clients then [client] else []) ∧
      (d.recipientsAcross between (some ⟨system, some component⟩) = [] ↔
        d.routes.owner? system component = none ∧ client ∉ d.clients ∧
          (∃ now, .contact client now ∈ between) ∧ .learn system component client ∈ between) := by
  intro d
  have horderly : (empty primary timeout).Orderly (before ++ between ++ later) :=
    hsteps ▸ orderly_stepsAll _ operations
  -- The steps in between are part of whole operations, so that each of them fits.
  have hbetween : d.Orderly between := (orderly_append.1 (orderly_append.1 horderly).1).2
  obtain ⟨client, hmem, hresolve⟩ := hserves between List.prefix_rfl
  have hfound : d.recipientsAcross between (some ⟨system, some component⟩) =
      if client ∈ d.clients then [client] else [] := by
    unfold recipientsAcross
    rw [Routes.recipients_component d.nodup_clients hsystem hcomponent, hresolve,
      Option.toList_some]
    by_cases hcopied : client ∈ d.clients <;> simp [hcopied]
  refine ⟨client, hmem, hresolve, hfound, ?_⟩
  rw [hfound]
  by_cases hcopied : client ∈ d.clients
  · simp [hcopied]
  · have htaken := taken_over_of_notMem hcomponent hbetween hserves hresolve hcopied
    simpa [hcopied] using htaken

/-- The first client speaks for component 1 of system 5 and stands in for component 2. The second
one takes that over once the clients are copied. There was somebody to go to all the time, but the
message goes to nobody. -/
theorem lookup_misses_new_owner :
    let first : SocketAddress := .v4 ⟨10, 0, 0, 2⟩ 14551
    let second : SocketAddress := .v4 ⟨10, 0, 0, 3⟩ 14551
    let start := empty (.v4 ⟨10, 0, 0, 1⟩ 14550) 10
    let before : List Step := [.contact first 0, .learn 5 1 first]
    let between : List Step := [.contact second 1, .learn 5 2 second]
    start.stepsAll [.registerSource first 5 1 0, .registerSource second 5 2 1] =
        before ++ between ++ [] ∧
      (start.after before).ServesThroughout 5 2 between ∧
      (start.after before).recipientsAcross between (some ⟨5, some 2⟩) = [] := by
  decide

/-- The second client is copied while its route is still to be learned, and so the message finds
it. -/
theorem lookup_finds_registered_owner :
    let first : SocketAddress := .v4 ⟨10, 0, 0, 2⟩ 14551
    let second : SocketAddress := .v4 ⟨10, 0, 0, 3⟩ 14551
    let start := empty (.v4 ⟨10, 0, 0, 1⟩ 14550) 10
    let before : List Step := [.contact first 0, .learn 5 1 first, .contact second 1]
    let between : List Step := [.learn 5 2 second, .expire 11, .forget [first]]
    start.stepsAll [.registerSource first 5 1 0, .registerSource second 5 2 1, .purge 11] =
        before ++ between ++ [] ∧
      (start.after before).ServesThroughout 5 2 between ∧
      (start.after before).recipientsAcross between (some ⟨5, some 2⟩) = [second] := by
  intro first second start before between
  have hsteps :
      start.stepsAll [.registerSource first 5 1 0, .registerSource second 5 2 1, .purge 11] =
        before ++ between ++ [] := by decide
  have hserves : (start.after before).ServesThroughout 5 2 between := by decide
  obtain ⟨client, hmem, hresolve, hfound, -⟩ := found_or_taken_over (.v4 ⟨10, 0, 0, 1⟩ 14550) 10 _
    hsteps (by decide) (by decide) hserves
  have hclient : second = client := by
    have hsecond : ((start.after before).after between).routes.resolve? 5 2 = some second := by
      decide
    exact Option.some.inj (hsecond.symm.trans hresolve)
  subst hclient
  exact ⟨hsteps, hserves, hfound.trans (if_pos (by decide))⟩

end VehicleLink.Directory
