import Mathlib.Algebra.Group.Defs
import VehicleLink.Counters

/-!
# Counters add up

Counters of one kind form a commutative monoid under their addition field by field, with nothing
counted as zero. Sums of counters, such as over all reports, are sums in it.
-/

namespace VehicleLink

namespace UplinkCounters

attribute [ext] UplinkCounters

instance : Zero UplinkCounters where
  zero := {}

instance : AddCommMonoid UplinkCounters where
  add_assoc a b c := by ext <;> exact Nat.add_assoc ..
  zero_add a := by ext <;> exact Nat.zero_add _
  add_zero a := rfl
  add_comm a b := by ext <;> exact Nat.add_comm ..
  nsmul := nsmulRec

end UplinkCounters

namespace DownlinkCounters

attribute [ext] DownlinkCounters

instance : Zero DownlinkCounters where
  zero := {}

instance : AddCommMonoid DownlinkCounters where
  add_assoc a b c := by ext <;> exact Nat.add_assoc ..
  zero_add a := by ext <;> exact Nat.zero_add _
  add_zero a := rfl
  add_comm a b := by ext <;> exact Nat.add_comm ..
  nsmul := nsmulRec

/-- A sum, field by field. -/
theorem add_eq (a b : DownlinkCounters) :
    a + b =
      { frames := a.frames + b.frames, serialBytes := a.serialBytes + b.serialBytes
        checksumFailed := a.checksumFailed + b.checksumFailed
        discardedBytes := a.discardedBytes + b.discardedBytes
        bulkFrames := a.bulkFrames + b.bulkFrames
        aggregatesSent := a.aggregatesSent + b.aggregatesSent
        aggregateBytes := a.aggregateBytes + b.aggregateBytes
        fanoutDatagrams := a.fanoutDatagrams + b.fanoutDatagrams
        injected := a.injected + b.injected, sendFailures := a.sendFailures + b.sendFailures } :=
  rfl

/-- What was counted before can be left out of an equation. -/
theorem eq_of_add_eq_add {a b c : DownlinkCounters} (h : a + b = a + c) : b = c := by
  -- Natural numbers cancel, and each counter is one.
  have hfield (field : DownlinkCounters → Nat) (hadd : ∀ x y, field (x + y) = field x + field y) :
      field b = field c :=
    Nat.add_left_cancel ((hadd a b).symm.trans ((congrArg field h).trans (hadd a c)))
  ext
  all_goals exact hfield _ fun _ _ => rfl

end DownlinkCounters

end VehicleLink
