import VehicleLink.Notice

/-!
# Reporting failures to send

An endpoint that is not there fails with every datagram. The log therefore reports at most one
failure per interval and counts the others; the count is told with the next report, or by itself
once the interval is over.
-/

namespace VehicleLink

/-- What is remembered about failures to send. -/
structure SendFailureLog where
  /-- The least span between two reports. -/
  interval : Nat
  lastReport : Option Nat := none
  suppressed : Nat := 0
deriving DecidableEq, Repr

namespace SendFailureLog

/-- Takes note of a failure, and reports it if the last report lies far enough back. -/
def record (log : SendFailureLog) (target : SocketAddress) (reason : String) (now : Nat) :
    Option Notice × SendFailureLog :=
  match log.lastReport with
  -- The first failure of all says nothing about earlier ones.
  | none => (some (.sendFailed target reason none), { log with lastReport := some now })
  | some last =>
    if Duration.between last now < log.interval then
      (none, { log with suppressed := log.suppressed + 1 })
    else
      (some (.sendFailed target reason (some log.suppressed)),
        { log with lastReport := some now, suppressed := 0 })

/-- Reports failures that were held back, if there are any and the last report lies far enough
back. -/
def flush (log : SendFailureLog) (now : Nat) : Option Notice × SendFailureLog :=
  match log.lastReport with
  | none => (none, log)
  | some last =>
    let span := Duration.between last now
    -- Without anything held back there is nothing to tell, and the last report stays the last.
    if log.suppressed = 0 || span < log.interval then (none, log)
    else (some (.sendFailuresSuppressed log.suppressed span),
      { log with lastReport := some now, suppressed := 0 })

end SendFailureLog

end VehicleLink
