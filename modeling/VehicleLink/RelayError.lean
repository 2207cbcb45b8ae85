import VehicleLink.Panic
import VehicleLink.Time
import VehicleLink.WireError

/-!
# Why the relay stops

The errors that end a worker or keep the relay from starting, with their texts and the exit code of
the process. A call without a result has returned such an error, or the program panicked in it.
-/

namespace VehicleLink

/-- The errors by their kind, as the log tells them apart. -/
inductive RelayError where
  | io (reason : String)
  | serial (reason : String)
  /-- Bytes were not what they had to be. -/
  | wire (error : WireError)
  | config (reason : String)
  | socket (reason : String)
  /-- The serial line did not take what had to be written in time. -/
  | stalled (waited : Nat) (queued needed : Nat)
  | clock (reason : String)
deriving DecidableEq, Repr

namespace RelayError

/-- The text of an error: its kind, then the reason that was given for it. -/
def message : RelayError → String
  | io reason => "IO error: " ++ reason
  | serial reason => "Serial port error: " ++ reason
  | wire error => "Protocol error: " ++ error.message
  | config reason => "Invalid configuration: " ++ reason
  | socket reason => "Socket init error: " ++ reason
  | stalled waited queued needed =>
    s!"Serial output stalled: {queued} bytes queued, {needed} bytes needed, waited "
      ++ Duration.text waited
  | clock reason => "Clock error: " ++ reason

/-- The serial line did not take what had to be written in time, as after a broken connection.
Whoever starts the relay again can tell from the exit code. -/
def isStall : RelayError → Bool
  | stalled _ _ _ => true
  | _ => false

/-- The exit code of a process that ends with this error: a stall is told apart. -/
def exitCode (e : RelayError) : UInt32 := if e.isStall then 2 else 1

end RelayError

/-- Why a call has no result. -/
inductive Fault where
  | error (error : RelayError)
  | panic (panic : Panic)
deriving DecidableEq, Repr

end VehicleLink
