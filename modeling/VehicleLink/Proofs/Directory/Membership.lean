import Mathlib.Data.List.Induction
import VehicleLink.Proofs.Directory.Consistency

/-!
# Who is registered after a purge

A client may be silent for too long without being removed, as nobody looks for it before the next
purge; it may be heard again in that time and stay, or be removed and come back. After a purge none
of this matters any more: registered is who was last heard in time (`registered_iff_heard_lately`),
whatever was purged before.

The invariant `Remembers` says what the registry knows about an address in between two purges.
Either it is registered with the time at which it was last heard, or it was not heard, or a purge
found it silent for too long.
-/

namespace VehicleLink.Directory

/-! ## The history of one address -/

/-- The time at which an operation hears a sender. -/
def Operation.hears? (a : SocketAddress) : Operation → Option Nat
  | .registerSource sender _ _ now => if sender = a then some now else none
  | .purge _ | .clear => none

/-- Whether an operation removes silent clients. -/
def Operation.isPurge : Operation → Bool
  | .purge _ => true
  | .registerSource .. | .clear => false

/-- When a sender was last heard since all clients were last removed. -/
def lastHeard? (a : SocketAddress) (operations : List Operation) : Option Nat :=
  (operations.reverse.takeWhile (· ≠ .clear)).findSome? (Operation.hears? a)

section History

variable {a : SocketAddress} {operations : List Operation}

/-- An operation that hears the sender is the last time that it was heard; others but a clearing
change nothing. -/
theorem lastHeard?_concat {last : Operation} (hlast : last ≠ .clear) :
    lastHeard? a (operations ++ [last]) = (last.hears? a).or (lastHeard? a operations) := by
  simp only [lastHeard?, List.reverse_append, List.reverse_singleton, List.singleton_append]
  rw [List.takeWhile_cons_of_pos (by simpa using hlast), List.findSome?_cons]
  cases last.hears? a with
  | none | some => rfl

theorem lastHeard?_concat_clear : lastHeard? a (operations ++ [.clear]) = none := by
  simp [lastHeard?]

/-- When a sender was last heard does not depend on what was purged. -/
theorem lastHeard?_filter_not_isPurge :
    lastHeard? a (operations.filter (!·.isPurge)) = lastHeard? a operations := by
  induction operations using List.reverseRecOn with
  | nil => rfl
  | append_singleton earlier last ih =>
    rw [List.filter_append]
    cases last with
    -- Only the purges are left out, and none of them is looked at on the other side either.
    | registerSource sender system component now =>
      show lastHeard? a (_ ++ [.registerSource sender system component now]) = _
      rw [lastHeard?_concat (by simp), lastHeard?_concat (by simp), ih]
    | purge now =>
      show lastHeard? a (_ ++ []) = _
      rw [List.append_nil, lastHeard?_concat (by simp), ih]
      rfl
    | clear =>
      show lastHeard? a (_ ++ [.clear]) = _
      rw [lastHeard?_concat_clear, lastHeard?_concat_clear]

end History

/-! ## What the registry remembers -/

/-- What the registry knows about a sender after some operations. -/
structure Remembers (d : Directory) (a : SocketAddress) (operations : List Operation) : Prop where
  lastSeen_eq : ∀ {client}, d.registry.clients.get? a = some client →
    lastHeard? a operations = some client.lastSeen
  silent : ∀ {t}, d.registry.clients.get? a = none → lastHeard? a operations = some t →
    ∃ earlier, .purge earlier ∈ operations ∧ d.registry.timeout < Duration.between t earlier

theorem performAll_concat (d : Directory) (operations : List Operation) (last : Operation) :
    d.performAll (operations ++ [last]) = (d.performAll operations).perform last :=
  List.foldl_append

section Remembers

variable {d : Directory} {a : SocketAddress} {operations : List Operation}

/-- A purge that was seen before is still seen when more has happened. -/
private theorem exists_purge_concat {timeout t : Nat} (last : Operation)
    (h : ∃ earlier, .purge earlier ∈ operations ∧ timeout < Duration.between t earlier) :
    ∃ earlier, .purge earlier ∈ operations ++ [last] ∧ timeout < Duration.between t earlier := by
  obtain ⟨earlier, hmem, hsilent⟩ := h
  exact ⟨earlier, List.mem_append_left _ hmem, hsilent⟩

/-- Hearing a sender sets its time and leaves what is known about other addresses. -/
theorem Remembers.registerSource (h : d.Remembers a operations) (ha : a ≠ d.registry.primary)
    (sender : SocketAddress) (system component : UInt8) (now : Nat) :
    (d.registerSource sender system component now).Remembers a
      (operations ++ [.registerSource sender system component now]) := by
  have htimeout : (d.registerSource sender system component now).registry.timeout =
      d.registry.timeout := by
    show (d.registry.contact sender now).timeout = _
    rw [Registry.contact_eq]
  by_cases hsender : sender = a
  · -- The sender is registered now, whether or not it was before.
    subst hsender
    have hget := Registry.get?_contact (r := d.registry) ha now sender
    rw [if_pos rfl] at hget
    have hlast : lastHeard? sender (operations ++
        [.registerSource sender system component now]) = some now := by
      rw [lastHeard?_concat (by simp), Operation.hears?, if_pos rfl]
      rfl
    refine ⟨fun {client} hclient => ?_, fun hnone => ?_⟩
    · rw [← Option.some.inj (hget.symm.trans hclient), hlast]
    · exact nomatch hget.symm.trans hnone
  · have hget : (d.registerSource sender system component now).registry.clients.get? a =
        d.registry.clients.get? a := by
      show (d.registry.contact sender now).clients.get? a = _
      by_cases hprimary : sender = d.registry.primary
      · rw [hprimary, Registry.contact_primary]
      · rw [Registry.get?_contact hprimary, if_neg (Ne.symm hsender)]
    have hlast : lastHeard? a (operations ++ [.registerSource sender system component now]) =
        lastHeard? a operations := by
      rw [lastHeard?_concat (by simp), Operation.hears?, if_neg hsender]
      rfl
    -- Nothing is known about the address that was not known before.
    constructor
    all_goals rw [hget, hlast]
    · exact h.lastSeen_eq
    · intro t hnone hlast
      rw [htimeout]
      exact exists_purge_concat _ (h.silent hnone hlast)

/-- A purge removes a client only after having found it silent for too long. -/
theorem Remembers.purge (h : d.Remembers a operations) (hkeyed : d.registry.Keyed) (now : Nat) :
    (d.purge now).Remembers a (operations ++ [.purge now]) := by
  have hlast : lastHeard? a (operations ++ [.purge now]) = lastHeard? a operations :=
    lastHeard?_concat (by simp)
  constructor
  all_goals rw [hlast]
  · intro client hclient
    exact h.lastSeen_eq (hkeyed.get?_purge_eq_some_iff.1 hclient).1
  · intro t hnone hlast
    show ∃ earlier, _ ∧ d.registry.timeout < _
    cases hold : d.registry.clients.get? a with
    | none => exact exists_purge_concat _ (h.silent hold hlast)
    | some client =>
      -- The client was there, so that it is this purge that found it silent.
      have hseen : client.lastSeen = t := Option.some.inj ((h.lastSeen_eq hold).symm.trans hlast)
      refine ⟨now, List.mem_append_right _ List.mem_cons_self, ?_⟩
      refine Nat.lt_of_not_le fun hheard => ?_
      have hkept := hkeyed.get?_purge_eq_some_iff.2 ⟨hold, hseen ▸ hheard⟩
      exact nomatch hnone.symm.trans hkept

theorem remembers_clear (d : Directory) (a : SocketAddress) (operations : List Operation) :
    d.clear.Remembers a (operations ++ [.clear]) := by
  constructor
  · intro client hclient
    exact nomatch hclient
  · intro t _ hlast
    exact nomatch lastHeard?_concat_clear.symm.trans hlast

/-- Induction on the history, from its start. -/
theorem remembers_performAll {primary a : SocketAddress} (ha : a ≠ primary) (timeout : Nat)
    (operations : List Operation) :
    ((empty primary timeout).performAll operations).Remembers a operations := by
  induction operations using List.reverseRecOn with
  | nil =>
    constructor
    · intro client hclient
      exact nomatch hclient
    · intro t _ hlast
      exact nomatch hlast
  | append_singleton earlier last ih =>
    rw [performAll_concat]
    cases last with
    | registerSource sender system component now =>
      have hprimary := primary_performAll (empty primary timeout) earlier
      exact ih.registerSource (hprimary ▸ ha) sender system component now
    | purge now =>
      have hconsistent := (consistent_empty primary timeout).performAll earlier
      exact ih.purge hconsistent.keyed now
    | clear => exact remembers_clear _ a earlier

end Remembers

/-! ## Membership -/

/-- A purge removes who was not heard in time. That somebody is missing already says the same, as
the purge that removed them was no later than this one. -/
theorem mem_clients_purge_iff {primary : SocketAddress} {timeout : Nat}
    {operations : List Operation} {now : Nat}
    (hclock : ∀ earlier, .purge earlier ∈ operations → earlier ≤ now) (a : SocketAddress) :
    a ∈ (((empty primary timeout).performAll operations).purge now).clients ↔
      a ≠ primary ∧
        ∃ t, lastHeard? a operations = some t ∧ Duration.between t now ≤ timeout := by
  have hconsistent := (consistent_empty primary timeout).performAll operations
  have hprimary := primary_performAll (empty primary timeout) operations
  have htimeout : ((empty primary timeout).performAll operations).registry.timeout = timeout :=
    timeout_performAll ..
  -- From here on the directory matters only as far as these facts go.
  generalize hd : (empty primary timeout).performAll operations = d at *
  by_cases ha : a = primary
  · have hapart : a ∉ (d.purge now).clients := by
      rw [ha, show primary = d.registry.primary from hprimary.symm]
      exact (hconsistent.purge now).apart
    exact iff_of_false hapart fun h => h.1 ha
  · have hremembers : d.Remembers a operations := hd ▸ remembers_performAll ha timeout operations
    have hmem : a ∈ (d.purge now).clients ↔ ∃ client, d.registry.clients.get? a = some client ∧
        Duration.between client.lastSeen now ≤ timeout := by
      show a ∈ (d.registry.purge now).addresses ↔ _
      simp only [Registry.mem_addresses_iff, hconsistent.keyed.get?_purge_eq_some_iff, htimeout]
    rw [hmem, and_iff_right ha]
    constructor
    · rintro ⟨client, hclient, hheard⟩
      exact ⟨client.lastSeen, hremembers.lastSeen_eq hclient, hheard⟩
    · rintro ⟨t, hlast, hheard⟩
      cases hget : d.registry.clients.get? a with
      | none =>
        -- A purge found it silent, and this one is no earlier.
        obtain ⟨earlier, hpurge, hsilent⟩ := hremembers.silent hget hlast
        have hle := hclock earlier hpurge
        have hmono : Duration.between t earlier ≤ Duration.between t now :=
          Nat.sub_le_sub_right hle t
        omega
      | some client =>
        have hseen := Option.some.inj ((hremembers.lastSeen_eq hget).symm.trans hlast)
        exact ⟨client, rfl, hseen ▸ hheard⟩

/-! ## All histories -/

/-- **Who is registered after a purge is a matter of when they were last heard.** Whatever senders
were heard and whenever the silent ones or all were removed, as long as no purge was later than this
one: afterwards an address is registered if and only if it is not that of the primary controller and
was last heard, since all clients were last removed, no longer ago than the timeout. Hence any other
history that differs in earlier purges only has the same clients. The purge returns those that it
removes, each once, and leaves everything that is known about the others as it was. -/
theorem registered_iff_heard_lately (primary : SocketAddress) (timeout : Nat)
    (operations : List Operation) (now : Nat)
    (hclock : ∀ earlier, .purge earlier ∈ operations → earlier ≤ now) :
    let d := (empty primary timeout).performAll operations
    let removed := (d.registry.expired now).map Client.address
    (∀ a, a ∈ (d.purge now).clients ↔
      a ≠ primary ∧ ∃ t, lastHeard? a operations = some t ∧ Duration.between t now ≤ timeout) ∧
    (∀ others : List Operation, (∀ earlier, .purge earlier ∈ others → earlier ≤ now) →
      others.filter (!·.isPurge) = operations.filter (!·.isPurge) →
      ∀ a, a ∈ (((empty primary timeout).performAll others).purge now).clients ↔
        a ∈ (d.purge now).clients) ∧
    removed.Nodup ∧
    (∀ a, a ∈ removed ↔ a ∈ d.clients ∧ a ∉ (d.purge now).clients) ∧
    ∀ a ∉ removed, (d.purge now).registry.clients.get? a = d.registry.clients.get? a := by
  intro d removed
  have hconsistent : d.Consistent := (consistent_empty primary timeout).performAll operations
  refine ⟨mem_clients_purge_iff hclock, ?_, hconsistent.keyed.nodup_expired now, ?_, ?_⟩
  · intro others hothers hsame a
    -- Both histories are told by when each sender was last heard, which is the same in both.
    rw [mem_clients_purge_iff hothers, mem_clients_purge_iff hclock,
      ← lastHeard?_filter_not_isPurge, hsame, lastHeard?_filter_not_isPurge]
  · intro a
    exact hconsistent.keyed.mem_expired_iff
  · intro a ha
    exact Registry.get?_purge_of_not_mem ha

/-- The client on port 3 is heard again after ten seconds of silence, just before anybody looks, and
the one on port 2 comes back after it was removed. -/
def visits : List Operation :=
  [.registerSource (.v4 ⟨10, 0, 0, 2⟩ 5) 5 1 0, .clear,
   .registerSource (.v4 ⟨10, 0, 0, 2⟩ 2) 2 1 0, .registerSource (.v4 ⟨10, 0, 0, 2⟩ 3) 3 1 1,
   .purge 11, .registerSource (.v4 ⟨10, 0, 0, 2⟩ 4) 4 1 14,
   .registerSource (.v4 ⟨10, 0, 0, 2⟩ 3) 3 1 15, .registerSource (.v4 ⟨10, 0, 0, 1⟩ 1) 1 1 20,
   .registerSource (.v4 ⟨10, 0, 0, 2⟩ 2) 2 1 22]

/-- At 25 the client on port 3 was silent for as long as a client may be, and the one on port 4 for
longer. -/
theorem visitors_left_at_twenty_five :
    let d := (empty (.v4 ⟨10, 0, 0, 1⟩ 1) 10).performAll visits
    let unpurged := (empty (.v4 ⟨10, 0, 0, 1⟩ 1) 10).performAll (visits.filter (!·.isPurge))
    (.v4 ⟨10, 0, 0, 2⟩ 3) ∈ (d.purge 25).clients ∧ (.v4 ⟨10, 0, 0, 2⟩ 4) ∉ (d.purge 25).clients ∧
      (d.registry.expired 25).map Client.address = [.v4 ⟨10, 0, 0, 2⟩ 4] ∧
      ∀ a, a ∈ (unpurged.purge 25).clients ↔ a ∈ (d.purge 25).clients := by
  have hclock : ∀ earlier, .purge earlier ∈ visits → earlier ≤ 25 := by
    simp [visits]
  have hrest : ∀ earlier, .purge earlier ∈ visits.filter (!·.isPurge) → earlier ≤ 25 :=
    fun earlier h => hclock earlier (List.mem_filter.1 h |>.1)
  obtain ⟨hmem, hsame, -, -, -⟩ :=
    registered_iff_heard_lately (.v4 ⟨10, 0, 0, 1⟩ 1) 10 visits 25 hclock
  refine ⟨(hmem _).2 ⟨by decide, 15, rfl, by decide⟩, fun h => ?_, by decide,
    hsame _ hrest rfl⟩
  obtain ⟨-, t, hlast, hheard⟩ := (hmem _).1 h
  have ht : 14 = t := Option.some.inj hlast
  exact absurd hheard (ht ▸ by decide)

end VehicleLink.Directory
