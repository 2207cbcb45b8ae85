/-!
# Panics

Sums of machine words are checked: where the exact sum is no machine word, there is no result, and
the program panics.
-/

namespace VehicleLink

/-- Why the program panics. -/
inductive Panic where
  /-- The sum of two machine words is no machine word. -/
  | addOverflow
deriving DecidableEq, Repr

/-- What the program says when it panics. -/
def Panic.message : Panic → String
  | addOverflow => "attempt to add with overflow"

/-- The sum of two machine words, if it is one. -/
def checkedAdd (a b : UInt64) : Except Panic UInt64 :=
  if a.toNat + b.toNat < UInt64.size then .ok (a + b) else .error .addOverflow

/-- A sum that there is, is the exact one. -/
theorem checkedAdd_eq_ok_iff {a b sum : UInt64} :
    checkedAdd a b = .ok sum ↔ sum.toNat = a.toNat + b.toNat := by
  unfold checkedAdd
  by_cases hfits : a.toNat + b.toNat < UInt64.size
  -- The sum of words is taken modulo the number of words, which changes nothing here.
  · have hexact : (a + b).toNat = a.toNat + b.toNat := by
      rw [UInt64.toNat_add]
      exact Nat.mod_eq_of_lt hfits
    rw [if_pos hfits, Except.ok.injEq, ← UInt64.toNat_inj, hexact]
    exact eq_comm
  · -- No machine word is a sum that is none.
    rw [if_neg hfits]
    exact ⟨nofun, fun hsum => absurd (hsum ▸ sum.toNat_lt_size) hfits⟩

/-- There is no sum exactly if the exact one is too large for a machine word, and then there is only
one way to panic. -/
theorem checkedAdd_eq_error_iff {a b : UInt64} {panic : Panic} :
    checkedAdd a b = .error panic ↔ UInt64.size ≤ a.toNat + b.toNat := by
  cases panic
  unfold checkedAdd
  by_cases hfits : a.toNat + b.toNat < UInt64.size
  · rw [if_pos hfits]
    exact ⟨nofun, fun hsize => absurd hfits (Nat.not_lt.2 hsize)⟩
  · rw [if_neg hfits]
    exact iff_of_true rfl (Nat.le_of_not_lt hfits)

end VehicleLink
