import VehicleLink.Time

/-!
# Flush deadlines

Aggregates are sent at deadlines one interval apart. A deadline that was met less than an interval
late is followed by the next of the series; after a longer delay the series starts again.
-/

namespace VehicleLink.Deadline

/-- The deadline after `deadline`, which was met at the time `now`. -/
def advance (interval : Nat) (deadline now : Nat) : Nat :=
  -- Deadlines that were missed altogether are not made up for.
  if deadline + interval ≤ now then now + interval else deadline + interval

/-- The next deadline is still to come, even if several were missed. -/
theorem lt_advance {interval : Nat} (h : 0 < interval) (deadline now : Nat) :
    now < advance interval deadline now := by
  unfold advance
  split <;> omega

/-- A deadline that has come is followed by one within an interval. -/
theorem advance_le {interval : Nat} {deadline now : Nat} (h : deadline ≤ now) :
    advance interval deadline now ≤ now + interval := by
  unfold advance
  split <;> omega

end VehicleLink.Deadline
