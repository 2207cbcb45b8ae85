import VehicleLink.Notice

/-!
# The vehicle's time

The first time that the vehicle tells is kept; later ones change nothing. Whether the machine's own
clock is set by it is left to the machine.
-/

namespace VehicleLink

/-- Whether the vehicle's time is known, and which it is. -/
structure VehicleClock where
  /-- Microseconds since the epoch, as the vehicle first told them. -/
  syncedAt : Option UInt64 := none
deriving DecidableEq, Repr

namespace VehicleClock

/-- Whether the vehicle has told a time. -/
def isSynced (c : VehicleClock) : Bool := c.syncedAt.isSome

/-- Hears of a time. The first one stays, however much better a later one might be. -/
def observe (c : VehicleClock) (micros : UInt64) : VehicleClock where
  syncedAt := c.syncedAt.or (some micros)

/-- What `observe` reports: the first time. -/
def observeNotices (c : VehicleClock) (micros : UInt64) : List Notice :=
  if c.isSynced then [] else [.vehicleTime micros]

end VehicleClock

end VehicleLink
