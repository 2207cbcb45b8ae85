/-!
# Finite tables

A `Table` maps finitely many keys to values and remembers in which order the keys came in. Each key
occurs once: the proof is part of the table, so that "the entry of a key" is always meant uniquely.
-/

namespace VehicleLink

/-- A finite map from keys to values, in the order in which the keys were inserted. -/
structure Table (κ α : Type) where
  entries : List (κ × α) := []
  /-- No key occurs twice. -/
  distinct : (entries.map Prod.fst).Nodup := by simp
deriving DecidableEq

namespace Table

variable {κ α β : Type}

instance : EmptyCollection (Table κ α) where
  emptyCollection := {}

instance : Inhabited (Table κ α) := ⟨∅⟩

/-- The keys, in the order in which they came in. -/
def keys (t : Table κ α) : List κ := t.entries.map Prod.fst

/-- The values, in the order of their keys. -/
def values (t : Table κ α) : List α := t.entries.map Prod.snd

def size (t : Table κ α) : Nat := t.entries.length

def isEmpty (t : Table κ α) : Bool := t.entries.isEmpty

theorem nodup_keys (t : Table κ α) : t.keys.Nodup := t.distinct

/-- Changes the values and keeps the keys in their order. -/
def map (t : Table κ α) (f : κ → α → β) : Table κ β where
  entries := t.entries.map fun e => (e.1, f e.1 e.2)
  distinct := by simpa [List.map_map, Function.comp_def] using t.distinct

/-- Keeps the entries that pass the test, in their order. -/
def filter (t : Table κ α) (p : κ → α → Bool) : Table κ α where
  entries := t.entries.filter fun e => p e.1 e.2
  distinct := t.distinct.sublist (List.filter_sublist.map Prod.fst)

variable [DecidableEq κ]

/-- The value of a key, if it has one. As no key occurs twice, the first entry found is the only
one. -/
def get? (t : Table κ α) (k : κ) : Option α :=
  (t.entries.find? fun e => e.1 = k).map Prod.snd

def contains (t : Table κ α) (k : κ) : Bool := (t.get? k).isSome

theorem contains_eq_true_iff {t : Table κ α} {k : κ} : t.contains k = true ↔ k ∈ t.keys := by
  simp [contains, get?, keys, List.find?_isSome]

/-- Gives the key a value unless it has one already. -/
def insertIfNew (t : Table κ α) (k : κ) (a : α) : Table κ α :=
  if h : t.contains k = true then t
  else
    { entries := t.entries ++ [(k, a)]
      distinct := by
        -- A key that has no value yet is not listed, so that it may be added at the end.
        have hk : k ∉ t.entries.map Prod.fst := fun hmem => h (contains_eq_true_iff.2 hmem)
        rw [List.map_append, List.nodup_append]
        refine ⟨t.distinct, by simp, ?_⟩
        intro x hx y hy hxy
        simp only [List.map_cons, List.map_nil, List.mem_singleton] at hy
        exact hk (hy ▸ hxy ▸ hx) }

/-- Applies `f` to the value of the key, if it has one. -/
def modify (t : Table κ α) (k : κ) (f : α → α) : Table κ α :=
  t.map fun k' a => if k' = k then f a else a

end Table

end VehicleLink
