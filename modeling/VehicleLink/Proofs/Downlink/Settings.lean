import VehicleLink.Proofs.Counters
import VehicleLink.Proofs.Downlink.Arrivals

/-!
# What passing things on leaves alone

Sending, collecting and passing on change counters, tables and the aggregate, but not what governs
the loop: the scanner, the deadlines, the gate as last read and the bulk kinds. These are put
together in `Downlink.Settings`, so that one equation for each operation says so (`settings_treat`
for all that is done with an arrival).
-/

namespace VehicleLink.Downlink

/-- What governs the loop: the fields of these names of a worker. -/
structure Settings where
  scanner : Scanner
  flushInterval : Nat
  nextFlush : Nat
  bulkIds : List UInt32
  rcLocked : Bool
  reportedDiscarded : Nat
deriving DecidableEq

/-- What governs the loop of this worker. -/
def settings (w : Downlink) : Settings where
  scanner := w.scanner
  flushInterval := w.flushInterval
  nextFlush := w.nextFlush
  bulkIds := w.bulkIds
  rcLocked := w.rcLocked
  reportedDiscarded := w.reportedDiscarded

/-- Treats what came in. -/
def treat (net : Network) (w : Downlink) : Arrival → Downlink
  | .frame f receivedMicros => w.handleFrame net f receivedMicros
  | .injected bytes receivedMicros => w.handleInjected net bytes receivedMicros

variable (net : Network) (w : Downlink)

@[simp] theorem settings_send (target : SocketAddress) (bytes : Bytes) (credit : DownlinkCounters) :
    (w.send net target bytes credit).settings = w.settings := by
  unfold send
  cases net.delivery w.sent.size target with
  | delivered => rfl
  | failed reason now => rfl

/-- What each step of a fold leaves alone, the fold leaves alone. -/
theorem settings_foldl {α : Type} {step : Downlink → α → Downlink}
    (hstep : ∀ v a, (step v a).settings = v.settings) (l : List α) :
    (l.foldl step w).settings = w.settings := by
  induction l generalizing w with
  | nil => rfl
  | cons a rest ih => exact (ih (step w a)).trans (hstep w a)

@[simp] theorem settings_flush : (w.flush net).settings = w.settings := by
  unfold flush
  split
  · rfl
  · exact settings_send net _ _ _ _

/-! ## Collecting -/

theorem aggregateFrame_eq (bytes : Bytes) (receivedMicros : UInt64) :
    w.aggregateFrame net bytes receivedMicros =
      if (w.collect net bytes receivedMicros).flushesAtOnce then
        (w.collect net bytes receivedMicros).flush net
      else w.collect net bytes receivedMicros := rfl

section

variable {P : Downlink → Prop} (haggregate : ∀ v aggregate, P v → P { v with aggregate })
  (hflush : ∀ v, P v → P (v.flush net)) {w} (h : P w) (bytes : Bytes) (receivedMicros : UInt64)
include haggregate hflush h

/-- Collecting does two things: it exchanges the aggregate, and it sends the waiting frames. What
both keep, it keeps. -/
theorem collect_keeps : P (w.collect net bytes receivedMicros) := by
  unfold collect
  split
  · exact haggregate w _ h
  · unfold addIfRoom
    split
    -- There was no room, so that the waiting frames went first.
    · exact haggregate _ _ (hflush w h)
    · exact hflush w h
  · exact h

theorem aggregateFrame_keeps : P (w.aggregateFrame net bytes receivedMicros) := by
  have hcollected : P (w.collect net bytes receivedMicros) :=
    collect_keeps net haggregate hflush h bytes receivedMicros
  rw [aggregateFrame_eq]
  split
  · exact hflush _ hcollected
  · exact hcollected

end

@[simp] theorem settings_aggregateFrame (bytes : Bytes) (receivedMicros : UInt64) :
    (w.aggregateFrame net bytes receivedMicros).settings = w.settings :=
  aggregateFrame_keeps net (P := fun v => v.settings = w.settings) (fun _ _ h => h)
    (fun v h => (settings_flush net v).trans h) rfl bytes receivedMicros

/-! ## Treating an arrival -/

@[simp] theorem settings_fanOut (bytes : Bytes) (targets : Option Targets) :
    (w.fanOut net bytes targets).settings = w.settings :=
  settings_foldl _ (fun v client => settings_send net v client bytes { fanoutDatagrams := 1 }) _

/-- A frame may tell the vehicle's time. That matters to the clock and to what is reported only. -/
theorem observeClock_eq (f : Frame) :
    ∃ clock notices, w.observeClock f = { w with clock, notices } := by
  unfold observeClock
  split
  · split
    · exact ⟨_, _, rfl⟩
    · exact ⟨w.clock, w.notices, rfl⟩
  · exact ⟨w.clock, w.notices, rfl⟩

/-- What is counted for an arrival. -/
def Arrival.events (bulkIds : List UInt32) : Arrival → DownlinkCounters
  | .frame f _ =>
    { frames := 1, checksumFailed := if f.checksumOk then 0 else 1
      bulkFrames := if bulkIds.contains f.header.messageId then 1 else 0 }
  | .injected _ _ => { injected := 1 }

/-- The worker once it took note of what came in. -/
def noted : Arrival → Downlink
  | .frame f _ => if w.isBulk f then (w.note f).count { bulkFrames := 1 } else w.note f
  | .injected _ _ => w.count { injected := 1 }

/-- Taking note counts the arrival, and leaves alone all that has to do with sending. -/
theorem noted_eq (a : Arrival) :
    ∃ clock notices streams, w.noted a =
      { w with
        clock, notices
        state := { w.state with streams }
        pending := w.pending + a.events w.bulkIds } := by
  cases a with
  | injected bytes receivedMicros => exact ⟨w.clock, w.notices, w.state.streams, rfl⟩
  | frame f receivedMicros =>
    let events : DownlinkCounters :=
      { frames := 1, checksumFailed := if f.checksumOk then 0 else 1 }
    let streams := w.state.streams.observe ⟨f.header.system, f.header.component⟩ f.header.sequence
      f.checksumOk
    -- Everything that taking note does beyond counting is in these two and in the streams.
    obtain ⟨clock, notices, hclock⟩ := observeClock_eq (w.count events) f
    have hnote : w.note f = _ := congrArg (fun v => v.observeStream f) hclock
    have hnoted : w.noted (.frame f receivedMicros) =
        if w.isBulk f then (w.note f).count { bulkFrames := 1 } else w.note f := rfl
    refine ⟨clock, notices, streams, ?_⟩
    rw [hnoted, hnote, isBulk, Arrival.events]
    cases w.bulkIds.contains f.header.messageId with
    | false => rfl
    | true =>
      exact congrArg (fun pending => ({ w with
          clock, notices, pending, state := { w.state with streams } } : Downlink))
        (add_assoc w.pending events { bulkFrames := 1 })

@[simp] theorem settings_noted (a : Arrival) : (w.noted a).settings = w.settings := by
  obtain ⟨clock, notices, streams, hnoted⟩ := noted_eq w a
  rw [hnoted]
  rfl

/-- An arrival is noted, collected unless it is bulk data, and passed on. -/
theorem treat_eq (a : Arrival) :
    w.treat net a =
      (if a.isBulk w.bulkIds then w.noted a
        else (w.noted a).aggregateFrame net a.bytes a.micros).fanOut net a.bytes a.targets := by
  cases a with
  | injected bytes receivedMicros => rfl
  | frame f receivedMicros =>
    obtain ⟨clock, notices, hclock⟩ := observeClock_eq
      (w.count { frames := 1, checksumFailed := if f.checksumOk then 0 else 1 }) f
    have hbulk : (w.note f).isBulk f = w.isBulk f :=
      congrArg (fun v => (v.observeStream f).isBulk f) hclock
    have htreat : w.treat net (.frame f receivedMicros) =
        ((w.note f).passToPrimary net f receivedMicros).fanOut net f.bytes
          (Arrival.frame f receivedMicros).targets := rfl
    have hnoted : w.noted (.frame f receivedMicros) =
        if w.isBulk f then (w.note f).count { bulkFrames := 1 } else w.note f := rfl
    have hkind : (Arrival.frame f receivedMicros).isBulk w.bulkIds = w.isBulk f := rfl
    -- Whether it is bulk data is asked after taking note, which does not change the answer.
    rw [htreat, hkind, hnoted, passToPrimary, hbulk]
    cases w.isBulk f <;> rfl

/-- Nothing that comes in changes what governs the loop. -/
@[simp] theorem settings_treat (a : Arrival) : (w.treat net a).settings = w.settings := by
  -- Passing on comes last, and leaves alone what governs the loop.
  rw [treat_eq, settings_fanOut]
  split
  · exact settings_noted w a
  · rw [settings_aggregateFrame, settings_noted]

/-- When a deadline is met, only the deadline changes. -/
theorem settings_meetDeadline (now : Nat) :
    ∃ nextFlush, (w.meetDeadline net now).settings = { w.settings with nextFlush } := by
  have hflushed := settings_flush net w
  unfold meetDeadline
  split
  · exact ⟨_, congrArg (fun s : Settings =>
      { s with
        nextFlush := Deadline.advance (w.flush net).flushInterval (w.flush net).nextFlush now })
      hflushed⟩
  · exact ⟨w.nextFlush, rfl⟩

end VehicleLink.Downlink
