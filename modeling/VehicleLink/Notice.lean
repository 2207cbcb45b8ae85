import VehicleLink.Address.Printer
import VehicleLink.Log
import VehicleLink.Time

/-!
# What is worth reporting

The events that the parts of the relay report while they work, and the log line of each.
-/

namespace VehicleLink

inductive Notice where
  | clientRegistered (client : SocketAddress)
  /-- A client was removed because nothing was heard from it. -/
  | clientTimedOut (client : SocketAddress) (silence connected : Nat)
  /-- A request to arm the motors was dropped because the safety gate is locked. -/
  | armRequestDropped (sender : SocketAddress) (system component : UInt8)
  /-- A datagram could not be sent; `suppressed` earlier failures were not reported. -/
  | sendFailed (target : SocketAddress) (reason : String) (suppressed : Option Nat)
  /-- Failures to send that were not reported one by one. -/
  | sendFailuresSuppressed (count : Nat) (span : Nat)
  | vehicleTime (micros : UInt64)
  | injectionFailed (reason : String)
  | uplinkStarted (address : SocketAddress)
  | uplinkStopped
  | downlinkStarted (primary : SocketAddress) (flushInterval : Nat)
  | downlinkStopped
deriving DecidableEq, Repr

namespace Notice

/-- What was lost is a warning, and everything else is ordinary progress. -/
def level : Notice → LogLevel
  | armRequestDropped _ _ _ | sendFailed _ _ _ | sendFailuresSuppressed _ _ | injectionFailed _ =>
    .warn
  | _ => .info

/-- The text that an operator reads. Spans and addresses are written as they are elsewhere in the
log. -/
def text : Notice → String
  | clientRegistered client => "New client " ++ client.text ++ " registered"
  | clientTimedOut client silence connected =>
    "Client " ++ client.text ++ " timed out after " ++ Duration.text silence
      ++ " (connected for " ++ Duration.text connected ++ ")"
  | armRequestDropped sender system component =>
    "Arm request from " ++ sender.text
      ++ s!" (sys {system.toNat}, comp {component.toNat}) dropped: RC lock engaged"
  | sendFailed target reason none => "UDP send to " ++ target.text ++ " failed: " ++ reason
  | sendFailed target reason (some suppressed) =>
    "UDP send to " ++ target.text ++ " failed: " ++ reason
      ++ s!" ({suppressed} more failure(s) suppressed)"
  | sendFailuresSuppressed count span =>
    s!"{count} UDP send failure(s) suppressed in the last " ++ Duration.text span
  | vehicleTime micros => s!"Vehicle time available: {micros.toNat} us since epoch"
  | injectionFailed reason => "Injection socket receive error: " ++ reason
  | uplinkStarted address => "Uplink worker started on Some(" ++ address.text ++ ")"
  | uplinkStopped => "Uplink worker stopped"
  | downlinkStarted primary flushInterval =>
    "Downlink worker started (primary " ++ primary.text ++ ", flush every "
      ++ Duration.text flushInterval ++ ")"
  | downlinkStopped => "Downlink worker stopped"

/-- The notice as a line of the log. -/
def line (n : Notice) : LogLine := ⟨n.level, n.text⟩

end Notice

end VehicleLink
