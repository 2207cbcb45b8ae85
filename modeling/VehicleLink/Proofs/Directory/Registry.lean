import VehicleLink.Directory.Registry
import VehicleLink.Proofs.Table

/-!
# Which clients are registered

What each operation of the registry does to the lookup of a client, and the two facts that all of
them keep: a client is registered under its own address (`Registry.Keyed`), and the primary
controller is not registered (`Registry.Apart`). The first one makes a purge exact: whoever is left
was heard in time, and whoever was heard in time is left (`Keyed.get?_purge_eq_some_iff`).
-/

namespace VehicleLink.Registry

/-- Every client is registered under its own address. -/
def Keyed (r : Registry) : Prop :=
  ∀ ⦃address client⦄, r.clients.get? address = some client → client.address = address

/-- The primary controller is not registered. -/
def Apart (r : Registry) : Prop := r.primary ∉ r.addresses

theorem mem_addresses_iff {r : Registry} {a : SocketAddress} :
    a ∈ r.addresses ↔ ∃ client, r.clients.get? a = some client :=
  Table.mem_keys_iff

/-! ## Contact -/

/-- Who the primary controller is and how long a client may be silent was settled at the start. -/
theorem contact_eq (r : Registry) (sender : SocketAddress) (now : Nat) :
    r.contact sender now = { r with clients := (r.contact sender now).clients } := by
  unfold contact register
  split
  · rfl
  · split <;> rfl

@[simp] theorem primary_contact (r : Registry) (sender : SocketAddress) (now : Nat) :
    (r.contact sender now).primary = r.primary := by
  rw [contact_eq]

/-- Hearing from the primary controller changes nothing. -/
theorem contact_primary (r : Registry) (now : Nat) : r.contact r.primary now = r := by
  have hadmit : r.admit? r.primary = none := if_pos rfl
  rw [contact, hadmit]

/-- After a contact the sender is registered with the time of the contact. It is the same client as
before, if there was one. -/
theorem get?_contact {r : Registry} {sender : SocketAddress} (h : sender ≠ r.primary) (now : Nat)
    (a : SocketAddress) :
    (r.contact sender now).clients.get? a =
      if a = sender then
        some { (r.clients.get? sender).getD ⟨sender, now, now⟩ with lastSeen := now }
      else r.clients.get? a := by
  have hadmit : r.admit? sender = some sender := if_neg h
  -- Registering first and then noting the time comes to the same for old and new clients.
  simp only [contact, register, touch, hadmit, Table.get?_modify, Table.get?_insertIfNew]
  split <;> rfl

/-- Hearing from a sender registers it, unless it is the primary controller, and removes nobody. -/
theorem mem_addresses_contact {r : Registry} {sender : SocketAddress} {now : Nat}
    {a : SocketAddress} :
    a ∈ (r.contact sender now).addresses ↔ a = sender ∧ sender ≠ r.primary ∨ a ∈ r.addresses := by
  by_cases h : sender = r.primary
  · rw [h, contact_primary]
    simp
  · rw [mem_addresses_iff, mem_addresses_iff, get?_contact h]
    by_cases ha : a = sender
    · simp [ha, h]
    · simp [ha]

/-- A new client is registered under the address that it sends from. -/
theorem Keyed.contact {r : Registry} (hkeyed : r.Keyed) (sender : SocketAddress) (now : Nat) :
    (r.contact sender now).Keyed := by
  by_cases h : sender = r.primary
  · rw [h, contact_primary]
    exact hkeyed
  · intro a client hclient
    rw [get?_contact h] at hclient
    split at hclient
    · rename_i ha
      cases hclient
      -- A client that is new or heard again carries the address under which it is registered.
      cases hold : r.clients.get? sender with
      | none => exact ha.symm
      | some old => exact (hkeyed hold).trans ha.symm
    · exact hkeyed hclient

theorem Apart.contact {r : Registry} (hapart : r.Apart) (sender : SocketAddress) (now : Nat) :
    (r.contact sender now).Apart := by
  unfold Apart
  rw [primary_contact, mem_addresses_contact]
  rintro (⟨hsender, hother⟩ | hold)
  · exact hother hsender.symm
  · exact hapart hold

/-! ## Purging -/

/-- Purging removes the addresses that the expired clients tell, and nothing else. -/
theorem get?_purge (r : Registry) (now : Nat) (a : SocketAddress) :
    (r.purge now).clients.get? a =
      (r.clients.get? a).filter fun _ => !((r.expired now).map Client.address).contains a :=
  Table.get?_filter ..

/-- Whoever is left was registered and is not one of those who were silent for too long. -/
theorem mem_addresses_purge {r : Registry} {now : Nat} {a : SocketAddress} :
    a ∈ (r.purge now).addresses ↔
      a ∈ r.addresses ∧ a ∉ (r.expired now).map Client.address := by
  simp only [mem_addresses_iff, get?_purge, Option.filter_eq_some_iff, Bool.not_eq_true',
    List.contains_eq_mem, decide_eq_false_iff_not, exists_and_right]

/-- The clients that are left are those that have not been silent for too long. -/
theorem Keyed.get?_purge_eq_some_iff {r : Registry} (hkeyed : r.Keyed) {now : Nat}
    {a : SocketAddress} {client : Client} :
    (r.purge now).clients.get? a = some client ↔
      r.clients.get? a = some client ∧ Duration.between client.lastSeen now ≤ r.timeout := by
  have hexpired : ∀ other : Client, other.isExpired r.timeout now = true ↔
      r.timeout < Duration.between other.lastSeen now := fun _ => decide_eq_true_iff
  -- What remains to show is that an address is on the list of the expired exactly if its client is
  -- silent.
  rw [get?_purge, Option.filter_eq_some_iff]
  refine and_congr_right fun hget => ?_
  simp only [Bool.not_eq_true', List.contains_eq_mem, decide_eq_false_iff_not, expired,
    List.mem_map, List.mem_filter, hexpired]
  constructor
  · intro hkept
    refine Nat.le_of_not_lt fun hsilent => hkept ⟨client, ⟨?_, hsilent⟩, hkeyed hget⟩
    exact Table.mem_values_iff.2 ⟨a, hget⟩
  · -- Whoever tells this address is this client.
    rintro hheard ⟨other, ⟨hother, hsilent⟩, haddress⟩
    obtain ⟨k, hk⟩ := Table.mem_values_iff.1 hother
    rw [(hkeyed hk).symm.trans haddress, hget, Option.some.injEq] at hk
    rw [← hk] at hsilent
    exact Nat.not_lt.2 hheard hsilent

/-- What is known about a client that is not removed stays as it is. -/
theorem get?_purge_of_not_mem {r : Registry} {now : Nat} {a : SocketAddress}
    (h : a ∉ (r.expired now).map Client.address) :
    (r.purge now).clients.get? a = r.clients.get? a := by
  have hkept : ((r.expired now).map Client.address).contains a = false := by
    rwa [List.contains_eq_mem, decide_eq_false_iff_not]
  rw [get?_purge, hkept]
  cases r.clients.get? a with
  | none | some => rfl

/-- The addresses that the clients tell are those that they are registered under. -/
theorem Keyed.map_address_values {r : Registry} (hkeyed : r.Keyed) :
    r.clients.values.map Client.address = r.addresses := by
  unfold Table.values addresses Table.keys
  rw [List.map_map]
  refine List.map_congr_left fun e he => ?_
  exact hkeyed (Table.get?_eq_some_iff.2 he)

/-- No address is removed twice. -/
theorem Keyed.nodup_expired {r : Registry} (hkeyed : r.Keyed) (now : Nat) :
    ((r.expired now).map Client.address).Nodup := by
  -- The expired clients are some of all clients, of which no two tell one address.
  have hall : (r.clients.values.map Client.address).Nodup :=
    hkeyed.map_address_values ▸ r.clients.nodup_keys
  exact hall.sublist (List.filter_sublist.map Client.address)

/-- An address that a purge returns was registered and is not any more, and the other way round. -/
theorem Keyed.mem_expired_iff {r : Registry} (hkeyed : r.Keyed) {now : Nat} {a : SocketAddress} :
    a ∈ (r.expired now).map Client.address ↔ a ∈ r.addresses ∧ a ∉ (r.purge now).addresses := by
  have hregistered : a ∈ (r.expired now).map Client.address → a ∈ r.addresses := by
    rw [← hkeyed.map_address_values]
    exact fun h => (List.filter_sublist.map Client.address).subset h
  rw [mem_addresses_purge]
  constructor
  · intro hremoved
    exact ⟨hregistered hremoved, fun hkept => hkept.2 hremoved⟩
  · rintro ⟨hmem, hgone⟩
    -- Whoever is gone must have been removed.
    exact Classical.byContradiction fun hnot => hgone ⟨hmem, hnot⟩

theorem Keyed.purge {r : Registry} (hkeyed : r.Keyed) (now : Nat) : (r.purge now).Keyed := by
  intro a client hclient
  rw [get?_purge, Option.filter_eq_some_iff] at hclient
  exact hkeyed hclient.1

theorem Apart.purge {r : Registry} (hapart : r.Apart) (now : Nat) : (r.purge now).Apart :=
  fun hmem => hapart (mem_addresses_purge.1 hmem).1

/-! ## Start and end -/

@[simp] theorem addresses_clear (r : Registry) : r.clear.addresses = [] := rfl

theorem keyed_clear (r : Registry) : r.clear.Keyed := fun _ _ h => nomatch h

theorem apart_clear (r : Registry) : r.clear.Apart := by simp [Apart]

end VehicleLink.Registry
