import VehicleLink.Log
import VehicleLink.State
import VehicleLink.Text.FixedPlaces

/-!
# Statistics

At fixed intervals the counters and the gaps of the streams are taken out of the shared state and
reported. What is taken is gone, so every event is reported once. Rates are double-precision
quotients; the load of the serial line counts ten bits per byte.
-/

namespace VehicleLink

/-- A span in seconds. Whole seconds and the rest are converted one by one, so that long spans lose
no more than the quotient does. -/
def Duration.seconds (d : Nat) : Float :=
  (UInt64.ofNat (d / 1000000000)).toFloat + (UInt64.ofNat (d % 1000000000)).toFloat / 1000000000.0

/-- What happened between two reports. -/
structure Report where
  /-- The span since the report before. -/
  elapsed : Nat
  uplink : UplinkCounters
  downlink : DownlinkCounters
  /-- The sources with new gaps, in order, and the number of these. -/
  gaps : List (Source × Nat)
  clients : Nat
deriving DecidableEq

namespace Report

/-- Takes counters and gaps out of the shared state. -/
def collect (s : State) (elapsed : Nat) : Report × State :=
  ({ elapsed, uplink := s.uplink, downlink := s.downlink, gaps := s.streams.unreported
     clients := s.directory.registry.clients.size },
    { s with uplink := {}, downlink := {}, streams := s.streams.markReported })

/-- A count as a floating-point number. -/
def count (n : Nat) : Float := (UInt64.ofNat n).toFloat

/-- The least span that a rate is taken over, in seconds: the distance of 1 to the next number. -/
def leastSeconds : Float := Float.ofBits 0x3CB0000000000000

/-- The span that rates are taken over, in seconds. -/
def seconds (r : Report) : Float :=
  let s := Duration.seconds r.elapsed
  -- Two reports at the same time would otherwise divide by zero.
  if s < leastSeconds then leastSeconds else s

/-- How many of these events there were per second. -/
def rate (r : Report) (events : Nat) : Float := count events / r.seconds

/-- Datagrams per second on the way to the vehicle. -/
def uplinkRate (r : Report) : Float := r.rate r.uplink.datagrams

/-- Frames per second on the way from the vehicle. -/
def downlinkRate (r : Report) : Float := r.rate r.downlink.frames

/-- How much of the serial line's capacity the bytes took, in percent. -/
def utilisation (bytes : Nat) (baudRate : UInt32) (elapsed : Nat) : Float :=
  let capacity := count baudRate.toNat * Duration.seconds elapsed
  -- With its start and stop bits a byte is ten bits on the line.
  if capacity ≤ 0 then 0 else count bytes * 10 * 100 / capacity

/-- The one line that every report begins with. -/
def summary (r : Report) (baudRate : UInt32) : String :=
  let direction (rate : Float) (bytes : Nat) :=
    FixedPlaces.text 1 rate ++ " msg/s " ++ FixedPlaces.text 0 (r.rate bytes) ++ " B/s ("
      ++ FixedPlaces.text 1 (utilisation bytes baudRate r.elapsed) ++ "% of link)"
  s!"[Stats] clients: {r.clients}, up: " ++ direction r.uplinkRate r.uplink.bytes
    ++ ", down: " ++ direction r.downlinkRate r.downlink.serialBytes
    ++ s!", aggregates: {r.downlink.aggregatesSent}, fan-out: {r.downlink.fanoutDatagrams}"
    ++ s!", injected: {r.downlink.injected}"

/-- A source with the number of its new gaps. -/
def gapText (gap : Source × Nat) : String :=
  let (source, gaps) := gap
  s!"({source.system.toNat},{source.component.toNat}): {gaps}"

/-- The lines that the report puts into the log: a summary, and a warning for each kind of trouble
that there was. -/
def lines (r : Report) (baudRate : UInt32) : List LogLine :=
  let warning (isDue : Bool) (text : String) : List LogLine := if isDue then [⟨.warn, text⟩] else []
  -- The summary always comes; a warning only where there is something to warn of.
  ⟨.info, r.summary baudRate⟩ ::
    (warning (0 < r.uplink.malformed || 0 < r.downlink.checksumFailed)
        (s!"[Stats] malformed uplink datagrams: {r.uplink.short} short, "
          ++ s!"{r.uplink.badMarker} bad marker, {r.uplink.badLength} bad length; "
          ++ s!"downlink checksum failures: {r.downlink.checksumFailed}, "
          ++ s!"noise bytes: {r.downlink.discardedBytes}")
      ++ warning (!r.gaps.isEmpty)
        ("[Stats] sequence gaps: " ++ ", ".intercalate (r.gaps.map gapText))
      ++ warning (0 < r.uplink.armBlocked)
        s!"[Stats] arm requests blocked by RC lock: {r.uplink.armBlocked}"
      ++ warning (0 < r.downlink.sendFailures)
        s!"[Stats] UDP send failures: {r.downlink.sendFailures}")

end Report

/-- What the reporter remembers from one report to the next. -/
structure Reporter where
  lastReport : Nat
deriving DecidableEq, Repr

/-- Makes a report on the time since the last one, and starts over. -/
def Reporter.collect (reporter : Reporter) (s : State) (now : Nat) :
    Report × Reporter × State :=
  let (report, s) := Report.collect s (Duration.between reporter.lastReport now)
  (report, { lastReport := now }, s)

end VehicleLink
