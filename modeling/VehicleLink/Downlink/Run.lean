import VehicleLink.Downlink.Basic
import VehicleLink.Downlink.Deadline

/-!
# The downlink worker's loop

Each iteration reads the safety gate, sends the waiting frames if their deadline has come, waits for
input, and treats what the serial line and the injection socket have. The loop ends when it is told
to, or when the serial line fails; either way the waiting frames are sent and the counters are made
public. All that the worker learns from outside during an iteration is in a `Downlink.Iteration`,
and all that the network answers is in a `Network`.
-/

namespace VehicleLink.Downlink

/-- The most bytes that are read from the serial line at once. -/
def readLength : Nat := 4096

/-- The most bytes of an injected datagram that are taken in. -/
def injectLength : Nat := 2048

/-- What reading from the serial line gives. -/
inductive SerialRead where
  /-- Bytes came in at the given time. None at all mean that the line was closed. -/
  | received (piece : Bytes) (receivedMicros : UInt64)
  | notReady
  | failed (reason : String)
deriving DecidableEq, Repr

/-- A datagram from the injection socket. -/
structure Injection where
  bytes : Bytes
  /-- When it was treated, in microseconds since the epoch. -/
  receivedMicros : UInt64
deriving DecidableEq, Repr

/-- How waiting for input ends. -/
inductive Wakeup where
  | failed (reason : String)
  /-- The worker waited for so long. Then the serial line was read if it had something, and so was
  the injection socket, until it was empty or failed. -/
  | ready (blockedMicros : UInt64) (serial : Option SerialRead) (injected : List Injection)
    (injectionFailure : Option String)
deriving DecidableEq, Repr

/-- All that the worker learns from outside in one iteration. -/
structure Iteration where
  gate : Bool
  now : Nat
  wakeup : Wakeup
deriving DecidableEq, Repr

/-- Sends the waiting frames if their deadline has come, and sets the next one. -/
def meetDeadline (net : Network) (w : Downlink) (now : Nat) : Downlink :=
  if w.nextFlush ≤ now then
    let w := w.flush net
    -- After the flush, so that its failure is among those that are summed up.
    let (notice, log) := w.sendFailures.flush now
    { w with
      nextFlush := Deadline.advance w.flushInterval w.nextFlush now
      sendFailures := log }.report notice.toList
  else w

/-- Counts the noise that was dropped since noise was last counted. -/
def countNoise (w : Downlink) : Downlink :=
  { w with reportedDiscarded := w.scanner.discarded }.count
    { discardedBytes := w.scanner.discarded - w.reportedDiscarded }

/-- Takes in bytes from the serial line and treats the frames that they complete. -/
def feed (net : Network) (w : Downlink) (piece : Bytes) (receivedMicros : UInt64) : Downlink :=
  let w := w.count { serialBytes := piece.length }
  let (frames, scanner) := (w.scanner.push piece).drain
  let w := frames.foldl (fun w frame => w.handleFrame net frame receivedMicros) { w with scanner }
  w.countNoise

/-- Treats what was read from the serial line, and tells the error that ends the loop, if there is
one. -/
def readSerial (net : Network) (w : Downlink) : SerialRead → Downlink × Option RelayError
  -- A line that is ready and gives nothing is gone.
  | .received [] _ => (w, some (.io "serial port closed"))
  | .received piece receivedMicros => (w.feed net piece receivedMicros, none)
  | .notReady => (w, none)
  | .failed reason => (w, some (.io reason))

/-- Treats a datagram from the injection socket: its front part, unless it is empty. -/
def inject (net : Network) (w : Downlink) (injection : Injection) : Downlink :=
  match injection.bytes.take injectLength with
  | [] => w
  | bytes => w.handleInjected net bytes injection.receivedMicros

/-- Treats all datagrams that wait for injection, and reports a failure of the socket. Such a
failure ends nothing but the reading. -/
def drainInjection (net : Network) (w : Downlink) (injected : List Injection)
    (failure : Option String) : Downlink :=
  (injected.foldl (inject net) w).report (failure.toList.map Notice.injectionFailed)

/-- What follows reading from the serial line. A failed read ends the loop before the injection
socket is looked at. -/
def afterRead (net : Network) (injected : List Injection) (failure : Option String) :
    Downlink × Option RelayError → Downlink × Option RelayError
  | (w, some error) => (w, some error)
  | (w, none) => ((w.drainInjection net injected failure).publish, none)

/-- One iteration, and the error that ends the loop with it, if there is one. -/
def iterate (net : Network) (w : Downlink) (i : Iteration) : Downlink × Option RelayError :=
  -- The gate is read once, and what is read holds for the whole iteration.
  let w := { w with rcLocked := i.gate }.meetDeadline net i.now
  match i.wakeup with
  | .failed reason => (w, some (.io reason))
  | .ready blockedMicros serial injected failure =>
    let w := { w with aggregate := w.aggregate.addBlocked blockedMicros }
    afterRead net injected failure (w.readSerial net (serial.getD .notReady))

/-- The iterations in order, up to an error. -/
def loop (net : Network) (w : Downlink) : List Iteration → Downlink × Option RelayError
  | [] => (w, none)
  | i :: rest =>
    match w.iterate net i with
    | (w, some error) => (w, some error)
    | (w, none) => w.loop net rest

/-- A whole run: the loop between the first deadline and a last flush. -/
def run (net : Network) (w : Downlink) (now : Nat) (iterations : List Iteration) :
    Downlink × Option RelayError :=
  let w := { w with nextFlush := now + w.flushInterval }.report
    [.downlinkStarted w.state.primary w.flushInterval]
  let (w, error) := w.loop net iterations
  -- Whatever ended the loop, nothing goes on waiting and nothing stays uncounted.
  ((w.flush net).publish.report [.downlinkStopped], error)

/-- The pieces in which a stream is read whose bytes are all there. -/
def pieces (stream : Bytes) : List Bytes :=
  if _h : stream.isEmpty then []
  else stream.take readLength :: pieces (stream.drop readLength)
termination_by stream.length
decreasing_by
  have hpos : 0 < stream.length := List.length_pos_iff.mpr fun h => _h (by rw [h]; rfl)
  rw [List.length_drop]
  exact Nat.sub_lt hpos (by decide)

end VehicleLink.Downlink
