import VehicleLink.Uplink.Basic

/-!
# The uplink worker's loop

Each iteration reads the safety gate, waits for one datagram and treats it, and now and then removes
silent clients: whenever no datagram came in time, and otherwise once the purge interval is over.
The loop ends when it is told to, or at the first datagram that cannot be treated. All that the
worker learns from outside during an iteration is in an `Uplink.Iteration`.
-/

namespace VehicleLink.Uplink

/-- The most bytes of a datagram that are taken in. No frame is as long, so what is cut off was
malformed before and is malformed after. -/
def receiveLength : Nat := 2048

/-- What waiting for a datagram gives. -/
inductive Reception where
  /-- A datagram came. The clock is read when it is treated and again afterwards. -/
  | datagram (bytes : Bytes) (sender : SocketAddress) (now checkedAt : Nat) (reply : LineReply)
  /-- None came in time. -/
  | timedOut (now : Nat)
  | interrupted
  /-- Waiting failed, which changes nothing. -/
  | failed (checkedAt : Nat)
deriving DecidableEq, Repr

/-- All that the worker learns from outside in one iteration. -/
structure Iteration where
  gate : Bool
  reception : Reception
deriving DecidableEq, Repr

/-- How a run ends. -/
inductive Ending where
  /-- The worker was told to stop. -/
  | stopped
  | failed (error : RelayError)
  /-- The worker still waits for room on the serial line. -/
  | waiting
deriving DecidableEq, Repr

/-- What a run, or part of one, came to. -/
structure Ran where
  ending : Ending
  worker : Uplink
  /-- The iterations that were begun. -/
  iterations : Nat := 0
  /-- What was done to the serial line, in order. -/
  serial : List SerialEvent := []
  notices : List Notice := []
deriving DecidableEq

/-- Removes silent clients if the purge interval is over. -/
def purgeIfDue (w : Uplink) (now : Nat) : Uplink :=
  if w.purgeInterval ≤ Duration.between w.lastPurge now then w.purge now else w

/-- What `purgeIfDue` reports. -/
def purgeIfDueNotices (w : Uplink) (now : Nat) : List Notice :=
  if w.purgeInterval ≤ Duration.between w.lastPurge now then
    w.state.directory.registry.purgeNotices now
  else []

/-- How a run ends with this outcome, if it does. -/
def Outcome.ending? : Outcome → Option Ending
  | failed error => some (.failed error)
  | waiting => some .waiting
  | _ => none

/-- The things that the worker does, one after the other. -/
inductive Action where
  | readGate (locked : Bool)
  | treat (datagram : Bytes) (sender : SocketAddress) (now : Nat) (reply : LineReply)
  | purge (now : Nat)
  | purgeIfDue (now : Nat)
deriving DecidableEq, Repr

/-- Does one thing. The ending is `stopped` if the loop goes on. -/
def perform (w : Uplink) : Action → Ran
  | .readGate locked => { ending := .stopped, worker := w.refreshGate locked }
  | .treat datagram sender now reply =>
    let handled := w.handle datagram sender now reply
    -- A datagram that was refused or held back ends nothing.
    { ending := handled.outcome.ending?.getD .stopped, worker := handled.worker
      serial := handled.serial, notices := handled.notices }
  | .purge now =>
    { ending := .stopped, worker := w.purge now
      notices := w.state.directory.registry.purgeNotices now }
  | .purgeIfDue now =>
    { ending := .stopped, worker := w.purgeIfDue now, notices := w.purgeIfDueNotices now }

/-- What comes of one step and then of others, which are taken unless the first ends the run. -/
def Ran.andThen (first : Ran) (others : Uplink → Ran) : Ran :=
  match first.ending with
  | .stopped =>
    let others := others first.worker
    { others with
      iterations := first.iterations + others.iterations
      serial := first.serial ++ others.serial
      notices := first.notices ++ others.notices }
  | _ => first

/-- Takes steps in order, until one ends the run. -/
def follow {α : Type} (step : Uplink → α → Ran) (w : Uplink) : List α → Ran
  | [] => { ending := .stopped, worker := w }
  | a :: rest => (step w a).andThen fun v => follow step v rest

/-- What an iteration does, in order. Silent clients are removed at its end. -/
def Iteration.actions (i : Iteration) : List Action :=
  .readGate i.gate :: match i.reception with
  -- The clock is not even read.
  | .interrupted => []
  | .timedOut now => [.purge now]
  | .failed checkedAt => [.purgeIfDue checkedAt]
  | .datagram bytes sender now checkedAt reply =>
    [.treat (bytes.take receiveLength) sender now reply, .purgeIfDue checkedAt]

/-- One iteration. Its ending is `stopped` if the loop goes on. -/
def iterate (w : Uplink) (i : Iteration) : Ran :=
  { w.follow perform i.actions with iterations := 1 }

/-- A whole run, up to an iteration that ends it. -/
def run (w : Uplink) (iterations : List Iteration) : Ran := w.follow iterate iterations

/-- The bytes of the writes to the serial line, in order. -/
def Ran.writes (r : Ran) : List Bytes := r.serial.filterMap SerialEvent.written?

end VehicleLink.Uplink
