import VehicleLink.Aggregate.Basic
import VehicleLink.Config.Basic
import VehicleLink.Downlink.Network
import VehicleLink.Frame.Scanner
import VehicleLink.Message.Basic
import VehicleLink.RelayError
import VehicleLink.SendFailureLog
import VehicleLink.State
import VehicleLink.VehicleClock

/-!
# From the vehicle to the network

The downlink worker cuts the vehicle's bytes into frames. The primary controller gets all frames but
those of bulk data, many in one aggregate; every client gets the frames that concern it, each in a
datagram of its own. Datagrams received for injection are treated like frames for everyone.

A datagram that cannot be sent is counted and given up; nothing else changes for that.
-/

namespace VehicleLink

/-- The downlink worker between two things that it does. -/
structure Downlink where
  state : State
  /-- The vehicle's bytes that are no frame yet. -/
  scanner : Scanner := {}
  /-- The frames that wait for the primary controller. -/
  aggregate : Aggregate
  /-- The number of the next aggregate. -/
  batch : UInt32 := 0
  flushInterval : Nat
  /-- When the waiting frames are sent at the latest. -/
  nextFlush : Nat
  /-- The message kinds that the primary controller does not get. -/
  bulkIds : List UInt32
  clock : VehicleClock := {}
  sendFailures : SendFailureLog
  /-- Whether the safety gate was locked when it was last read. -/
  rcLocked : Bool := false
  /-- What was counted but not yet added to the shared counters. -/
  pending : DownlinkCounters := {}
  /-- The noise bytes that were counted. -/
  reportedDiscarded : Nat := 0
  /-- The number of messages that were passed on to clients. -/
  messages : Nat := 0
  /-- All datagrams handed to the socket, in order. -/
  sent : Array SendAttempt := #[]
  notices : Array Notice := #[]
deriving DecidableEq

namespace Downlink

/-- A worker that has done nothing yet, on the given state. -/
def start (c : Config) (state : State) (now : Nat) : Downlink where
  state := state
  aggregate := .empty c.aggregateMaxPayload.toNat
  flushInterval := c.flushInterval
  nextFlush := now + c.flushInterval
  bulkIds := c.bulkTransferIds
  sendFailures := { interval := c.sendFailureLogInterval }

/-- Counts events, for the worker alone until it makes them public. -/
def count (w : Downlink) (events : DownlinkCounters) : Downlink :=
  { w with pending := w.pending + events }

/-- Adds to what was reported. -/
def report (w : Downlink) (notices : List Notice) : Downlink :=
  { w with notices := w.notices ++ notices.toArray }

/-- Counts a failure to send, and reports it if that is due. -/
def noteFailure (w : Downlink) (target : SocketAddress) (reason : String) (now : Nat) :
    Downlink :=
  let (notice, log) := w.sendFailures.record target reason now
  ({ w with sendFailures := log }.count { sendFailures := 1 }).report notice.toList

/-- Hands a datagram to the socket; `credit` is counted if it is taken. -/
def send (net : Network) (w : Downlink) (target : SocketAddress) (bytes : Bytes)
    (credit : DownlinkCounters) : Downlink :=
  -- The answer depends on how much was handed over before, so that an endpoint may come and go.
  let delivery := net.delivery w.sent.size target
  let w := { w with sent := w.sent.push { target, bytes, delivery } }
  match delivery with
  | .delivered => w.count credit
  | .failed reason now => w.noteFailure target reason now

/-- Sends the waiting frames to the primary controller, if there are any. The number of the
aggregate is used up whether or not it is taken. -/
def flush (net : Network) (w : Downlink) : Downlink :=
  match w.aggregate.take? w.batch (net.wallMicros w.sent.size) with
  | none => w
  | some (datagram, aggregate) =>
    send net { w with aggregate, batch := w.batch + 1 } w.state.primary datagram
      { aggregatesSent := 1, aggregateBytes := datagram.length }

/-- Adds a frame to the aggregate, and leaves it out if there is no room for it. -/
def addIfRoom (w : Downlink) (bytes : Bytes) (receivedMicros : UInt64) : Downlink :=
  match w.aggregate.append bytes receivedMicros with
  | .ok aggregate => { w with aggregate }
  | .error _ => w

/-- Adds a frame to the aggregate, after sending the frames that wait if there is no room for it. A
frame for which there is no room even then is left out. -/
def collect (net : Network) (w : Downlink) (bytes : Bytes) (receivedMicros : UInt64) : Downlink :=
  match w.aggregate.append bytes receivedMicros with
  | .ok aggregate => { w with aggregate }
  -- The frame may fit once the frames before it are gone.
  | .error (.aggregateOverflow _ _) => (w.flush net).addIfRoom bytes receivedMicros
  | .error _ => w

/-- Whether waiting frames are sent at once: while the safety gate is locked, or when the longest
frame may not fit any more. -/
def flushesAtOnce (w : Downlink) : Bool := w.rcLocked || w.aggregate.isNearlyFull

/-- Adds a frame to the aggregate, and sends it on if it should not wait. -/
def aggregateFrame (net : Network) (w : Downlink) (bytes : Bytes) (receivedMicros : UInt64) :
    Downlink :=
  let w := w.collect net bytes receivedMicros
  if w.flushesAtOnce then w.flush net else w

/-- Hands a message to every client that it concerns, each in a datagram of its own. -/
def fanOut (net : Network) (w : Downlink) (bytes : Bytes) (targets : Option Targets) : Downlink :=
  -- The clients are those of this moment, not of the one in which the message came in.
  let directory := w.state.directory.after (net.meanwhile w.messages)
  let w := { w with messages := w.messages + 1, state := { w.state with directory } }
  (directory.recipients targets).foldl
    (fun w client => w.send net client bytes { fanoutDatagrams := 1 }) w

/-- Takes note of the vehicle's time if the frame tells it and can be trusted. -/
def observeClock (w : Downlink) (frame : Frame) : Downlink :=
  if frame.checksumOk then
    match Message.vehicleTime? frame.header.messageId frame.payload with
    | some micros =>
      { w with clock := w.clock.observe micros }.report (w.clock.observeNotices micros)
    | none => w
  else w

/-- Takes note of the number of a frame in the stream of its source. -/
def observeStream (w : Downlink) (frame : Frame) : Downlink :=
  let h := frame.header
  { w with state := { w.state with
      streams := w.state.streams.observe ⟨h.system, h.component⟩ h.sequence frame.checksumOk } }

/-- Whether the primary controller does not get frames of this kind. -/
def isBulk (w : Downlink) (frame : Frame) : Bool := w.bulkIds.contains frame.header.messageId

/-- Takes note of a frame from the vehicle: counts it, and follows the vehicle's time and the stream
that the frame belongs to. -/
def note (w : Downlink) (frame : Frame) : Downlink :=
  -- A wrong checksum is counted, but keeps no frame from being passed on.
  let w := w.count { frames := 1, checksumFailed := if frame.checksumOk then 0 else 1 }
  (w.observeClock frame).observeStream frame

/-- Adds a frame from the vehicle to the aggregate, unless the primary controller does not get
it. -/
def passToPrimary (net : Network) (w : Downlink) (frame : Frame) (receivedMicros : UInt64) :
    Downlink :=
  if w.isBulk frame then w.count { bulkFrames := 1 }
  else w.aggregateFrame net frame.bytes receivedMicros

/-- Treats a frame from the vehicle. Bulk data is kept from the primary controller only; the clients
get all that concerns them. -/
def handleFrame (net : Network) (w : Downlink) (frame : Frame) (receivedMicros : UInt64) :
    Downlink :=
  ((w.note frame).passToPrimary net frame receivedMicros).fanOut net frame.bytes
    (Targets.ofPayload? frame.header.messageId frame.payload)

/-- Treats what was taken in of an injected datagram. It is a message for everyone and needs not be
a frame. -/
def handleInjected (net : Network) (w : Downlink) (bytes : Bytes) (receivedMicros : UInt64) :
    Downlink :=
  let w := w.count { injected := 1 }
  (w.aggregateFrame net bytes receivedMicros).fanOut net bytes none

/-- Adds what was counted to the shared counters, and starts counting anew. -/
def publish (w : Downlink) : Downlink :=
  { w with pending := {}, state := { w.state with downlink := w.state.downlink + w.pending } }

end Downlink

end VehicleLink
