import VehicleLink.Table

/-!
# Tables as partial functions

What each table operation does to the lookup `Table.get?`. The keys of a table are distinct, so a
lookup finds exactly the entries that the table has (`get?_eq_some_iff`); every other lemma rests on
that one, and none of the proofs after this module looks at the list of entries again.

* `get?_map`, `get?_filter`, `get?_insertIfNew`, `get?_modify` : one equation for each operation.
* `mem_keys_iff`, `mem_values_iff` : what the keys and the values are.
-/

namespace VehicleLink.Table

variable {κ α β : Type} [DecidableEq κ]

/-! ## Lookup and membership -/

/-- A lookup finds exactly the entries of the table. The backward direction needs that no key occurs
twice: `find?` stops at the first entry with the key. -/
theorem get?_eq_some_iff {t : Table κ α} {k : κ} {a : α} :
    t.get? k = some a ↔ (k, a) ∈ t.entries := by
  obtain ⟨entries, distinct⟩ := t
  simp only [get?]
  induction entries with
  | nil => simp
  | cons e rest ih =>
    rw [List.map_cons, List.nodup_cons] at distinct
    obtain ⟨hfresh, hrest⟩ := distinct
    rw [List.find?_cons]
    by_cases hk : e.1 = k
    -- The search stops here, and the key has no other entry.
    · have hnot : (k, a) ∉ rest := fun hmem => hfresh (hk ▸ List.mem_map_of_mem hmem)
      simp only [hk, decide_true, Option.map_some, Option.some.injEq, List.mem_cons, hnot, or_false]
      constructor
      · rintro rfl
        exact Prod.ext hk.symm rfl
      · rintro rfl
        rfl
    -- The search goes on, and the entry has another key.
    · have hne : (k, a) ≠ e := fun h => hk (h ▸ rfl)
      simp only [hk, decide_false, List.mem_cons, hne, false_or]
      exact ih hrest

theorem mem_keys_iff {t : Table κ α} {k : κ} : k ∈ t.keys ↔ ∃ a, t.get? k = some a := by
  simp only [keys, List.mem_map, get?_eq_some_iff]
  constructor
  · rintro ⟨⟨k, a⟩, hmem, rfl⟩
    exact ⟨a, hmem⟩
  · rintro ⟨a, hmem⟩
    exact ⟨(k, a), hmem, rfl⟩

theorem mem_values_iff {t : Table κ α} {a : α} : a ∈ t.values ↔ ∃ k, t.get? k = some a := by
  simp only [values, List.mem_map, get?_eq_some_iff]
  constructor
  · rintro ⟨⟨k, a⟩, hmem, rfl⟩
    exact ⟨k, hmem⟩
  · rintro ⟨k, hmem⟩
    exact ⟨(k, a), hmem, rfl⟩

/-- Two tables with the same entries for every key agree on every lookup. -/
theorem get?_eq_of_forall {t : Table κ α} {k : κ} {o : Option α}
    (h : ∀ a, (k, a) ∈ t.entries ↔ o = some a) : t.get? k = o := by
  apply Option.ext
  intro a
  rw [get?_eq_some_iff, h]

@[simp] theorem get?_empty (k : κ) : (∅ : Table κ α).get? k = none := rfl

@[simp] theorem isEmpty_eq_false_iff {t : Table κ α} :
    t.isEmpty = false ↔ ∃ k a, t.get? k = some a := by
  simp only [isEmpty, get?_eq_some_iff, List.isEmpty_eq_false_iff_exists_mem, Prod.exists]

/-! ## Tables with the same entries -/

omit [DecidableEq κ] in
theorem nodup_entries (t : Table κ α) : t.entries.Nodup :=
  List.Pairwise.of_map Prod.fst (fun _ _ hne heq => hne (congrArg Prod.fst heq)) t.distinct

/-- Lookups tell everything about a table but the order of its entries. -/
theorem entries_perm {t u : Table κ α} (h : ∀ k, t.get? k = u.get? k) :
    t.entries.Perm u.entries := by
  rw [List.perm_ext_iff_of_nodup t.nodup_entries u.nodup_entries]
  rintro ⟨k, a⟩
  rw [← get?_eq_some_iff, ← get?_eq_some_iff, h]

theorem size_congr {t u : Table κ α} (h : ∀ k, t.get? k = u.get? k) : t.size = u.size :=
  (entries_perm h).length_eq

theorem count_values_congr [BEq α] {t u : Table κ α} (h : ∀ k, t.get? k = u.get? k) (a : α) :
    t.values.count a = u.values.count a :=
  ((entries_perm h).map Prod.snd).count_eq a

omit [DecidableEq κ] in
/-- What a filter on the values takes away. -/
theorem size_sub_size_filter [BEq α] (t : Table κ α) (a : α) :
    t.size - (t.filter fun _ b => b != a).size = t.values.count a := by
  -- Each entry either has the value or passes the filter.
  have hsplit : t.size = t.values.count a + (t.filter fun _ b => b != a).size := by
    rw [values, List.count, List.countP_map, List.countP_eq_length_filter]
    simpa [size, filter, bne, List.countP_eq_length_filter, Function.comp_def] using
      List.length_eq_countP_add_countP (fun e => e.2 == a) (l := t.entries)
  rw [hsplit, Nat.add_sub_cancel]

/-! ## The operations -/

/-- Each value is changed together with its key. -/
@[simp] theorem get?_map (t : Table κ α) (f : κ → α → β) (k : κ) :
    (t.map f).get? k = (t.get? k).map (f k) := by
  apply get?_eq_of_forall
  intro b
  simp only [map, List.mem_map, Prod.mk.injEq, Option.map_eq_some_iff, get?_eq_some_iff]
  constructor
  · rintro ⟨⟨k, a⟩, hmem, rfl, rfl⟩
    exact ⟨a, hmem, rfl⟩
  · rintro ⟨a, hmem, rfl⟩
    exact ⟨(k, a), hmem, rfl, rfl⟩

@[simp] theorem get?_filter (t : Table κ α) (p : κ → α → Bool) (k : κ) :
    (t.filter p).get? k = (t.get? k).filter (p k) := by
  apply get?_eq_of_forall
  intro a
  simp only [filter, List.mem_filter, Option.filter_eq_some_iff, get?_eq_some_iff]

/-- A key that is new gets the value; all other keys, and a key that has a value, keep theirs. -/
@[simp] theorem get?_insertIfNew (t : Table κ α) (k : κ) (a : α) (k' : κ) :
    (t.insertIfNew k a).get? k' = if k' = k then some ((t.get? k).getD a) else t.get? k' := by
  unfold insertIfNew
  split
  · rename_i hold
    obtain ⟨b, hb⟩ := Option.isSome_iff_exists.1 hold
    split
    · rename_i heq
      rw [heq, hb, Option.getD_some]
    · rfl
  · rename_i hnew
    -- The entry is put behind all others, and no other has its key.
    have hnone : t.get? k = none := by simpa [contains] using hnew
    apply get?_eq_of_forall
    intro b
    simp only [List.mem_append, List.mem_singleton, Prod.mk.injEq, ← get?_eq_some_iff]
    split
    · rename_i heq
      subst heq
      simp [hnone, eq_comm]
    · rename_i hne
      simp [hne]

/-- One value for two keys goes to those that have none. -/
theorem get?_insertIfNew_insertIfNew (t : Table κ α) (k l : κ) (a : α) (k' : κ) :
    ((t.insertIfNew k a).insertIfNew l a).get? k' =
      if k' = k ∨ k' = l then some ((t.get? k').getD a) else t.get? k' := by
  simp only [get?_insertIfNew]
  by_cases hl : k' = l
  · subst hl
    by_cases hk : k' = k
    · simp [hk]
    · simp [hk]
  · by_cases hk : k' = k
    · subst hk
      simp [hl]
    · simp [hk, hl]

@[simp] theorem get?_modify (t : Table κ α) (k : κ) (f : α → α) (k' : κ) :
    (t.modify k f).get? k' = if k' = k then (t.get? k').map f else t.get? k' := by
  rw [modify, get?_map]
  split
  · rfl
  · exact Option.map_id'

end VehicleLink.Table
