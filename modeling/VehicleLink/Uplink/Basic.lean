import VehicleLink.Config.Basic
import VehicleLink.Frame.Header
import VehicleLink.Message.Basic
import VehicleLink.RelayError
import VehicleLink.Serial.Line
import VehicleLink.State

/-!
# From the network to the vehicle

The uplink worker writes every well-formed datagram to the serial line, unchanged. On the way it
registers the sender, learns its route, holds back requests to arm while the safety gate is locked,
and waits for room on the line. `Uplink.handle` treats one datagram; what the line answers meanwhile
is an input, and what was done to the line is part of the result.
-/

namespace VehicleLink

/-- The uplink worker between two things that it does. -/
structure Uplink where
  state : State
  /-- How it waits for room on the serial line. -/
  backpressure : Backpressure
  /-- The span after which it removes silent clients even if datagrams keep coming. -/
  purgeInterval : Nat
  /-- When it last removed silent clients. -/
  lastPurge : Nat
  /-- Whether the safety gate was locked when it was last read. -/
  rcLocked : Bool := false
deriving DecidableEq

namespace Uplink

/-- What became of a datagram. -/
inductive Outcome where
  | forwarded
  /-- It was no frame. -/
  | malformed (error : WireError)
  /-- It asked to arm while the gate is locked. -/
  | armBlocked
  | failed (error : RelayError)
  /-- The worker still waits for room on the line. -/
  | waiting
deriving DecidableEq, Repr

/-- What treating a datagram came to. -/
structure Handled where
  outcome : Outcome
  worker : Uplink
  /-- What was done to the serial line, in order. -/
  serial : List SerialEvent := []
  notices : List Notice := []
deriving DecidableEq

/-- A worker that has done nothing yet, if its socket can be set up. -/
def start (c : Config) (state : State) (now : Nat) : Except RelayError Uplink :=
  -- A socket refuses to wait for no time at all.
  if c.recvTimeoutMs = 0 then .error (.io "cannot set a 0 duration timeout")
  else .ok
    { state
      backpressure := { capacity := c.serialTxBuffer.toNat, timeout := c.serialStallTimeout }
      purgeInterval := c.purgeInterval
      lastPurge := now }

/-- Notes whether the gate is locked, for all that follows. -/
def refreshGate (w : Uplink) (locked : Bool) : Uplink := { w with rcLocked := locked }

/-- Counts events, for everyone to see at once. -/
def count (w : Uplink) (events : UplinkCounters) : Uplink :=
  { w with state := { w.state with uplink := w.state.uplink + events } }

/-- What is counted for a datagram that is no frame. -/
def malformedCount : WireError → UplinkCounters
  | .tooShort _ => { short := 1 }
  | .badMarker _ => { badMarker := 1 }
  -- Of the others only a wrong length comes up here.
  | _ => { badLength := 1 }

/-- Learns from the sender of a frame. -/
def learn (w : Uplink) (sender : SocketAddress) (header : Frame.Header) (now : Nat) : Uplink :=
  { w with state := { w.state with
      directory := w.state.directory.registerSource sender header.system header.component now } }

/-- Removes silent clients, and notes when that was. -/
def purge (w : Uplink) (now : Nat) : Uplink :=
  { w with lastPurge := now, state := { w.state with directory := w.state.directory.purge now } }

/-- Passes a frame on: waits for room, then writes. Each failure leaves the worker as it was. -/
def forward (w : Uplink) (datagram : Bytes) (reply : LineReply) : Handled :=
  let (wait, readings) := w.backpressure.wait datagram.length reply.polls
  let queries := readings.map SerialEvent.queried
  match wait with
  | .pending => { outcome := .waiting, worker := w, serial := queries }
  | .failed reason => { outcome := .failed (.io reason), worker := w, serial := queries }
  | .stalled waited queued =>
    { outcome := .failed (.stalled waited queued datagram.length), worker := w, serial := queries }
  | .ready waited =>
    match reply.writeFailure with
    | some reason =>
      { outcome := .failed (.io reason), worker := w
        serial := queries ++ [.failedToWrite datagram] }
    | none =>
      -- Nothing is counted before the bytes are out.
      { outcome := .forwarded
        worker := w.count
          { datagrams := 1, bytes := datagram.length, serialWaits := if waited then 1 else 0 }
        serial := queries ++ [.wrote datagram] }

/-- Whether a frame is held back: it asks to arm, and the gate was locked when last read. -/
def blocks (w : Uplink) (header : Frame.Header) (datagram : Bytes) : Bool :=
  w.rcLocked && Message.isArmRequest header.messageId (header.payload datagram)

/-- Treats one datagram. -/
def handle (w : Uplink) (datagram : Bytes) (sender : SocketAddress) (now : Nat)
    (reply : LineReply) : Handled :=
  match Frame.inspect datagram with
  | .error e => { outcome := .malformed e, worker := w.count (malformedCount e) }
  | .ok header =>
    -- The sender counts as heard even if what it sent is held back.
    let learned := w.learn sender header now
    let registered := w.state.directory.registry.registerNotices sender
    if w.blocks header datagram then
      { outcome := .armBlocked, worker := learned.count { armBlocked := 1 }
        notices := registered ++ [.armRequestDropped sender header.system header.component] }
    else
      let handled := learned.forward datagram reply
      { handled with notices := registered ++ handled.notices }

end Uplink

end VehicleLink
