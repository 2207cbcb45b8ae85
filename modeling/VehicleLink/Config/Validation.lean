import VehicleLink.Config.Basic
import VehicleLink.Frame.Header
import VehicleLink.RelayError

/-!
# Which configurations are usable

The settings are checked one after the other, and the first that is unusable is reported. Sizes are
machine words. So is the sum that is compared with the greatest datagram, and where it would not be
one, the program panics.
-/

namespace VehicleLink.Config

/-- What makes a configuration unusable, one case for each check. -/
inductive Violation where
  | zeroBaudRate
  /-- An aggregate could not hold the longest frame. -/
  | aggregateTooSmall (size : UInt64)
  /-- An aggregate would not fit into a datagram. -/
  | aggregateTooLarge (size : UInt64)
  | zeroFlushInterval
  /-- The serial output buffer could not hold the longest frame. -/
  | serialBufferTooSmall (size : UInt64)
  /-- The relay would not wait for datagrams. -/
  | zeroRecvTimeout
  /-- Reports would be made without pause. -/
  | zeroStatsInterval
deriving DecidableEq, Repr

/-- What is said about the setting, with its value where there is one to tell. -/
def Violation.message : Violation → String
  | zeroBaudRate => "baud_rate must be non-zero"
  | aggregateTooSmall size =>
    s!"aggregate_max_payload {size.toNat} is smaller than one maximum frame ({Frame.maxLength})"
  | aggregateTooLarge size =>
    s!"aggregate_max_payload {size.toNat} does not fit in a UDP datagram"
  | zeroFlushInterval => "flush_interval_ms must be non-zero"
  | serialBufferTooSmall size =>
    s!"serial_tx_buffer {size.toNat} cannot hold one maximum frame ({Frame.maxLength})"
  | zeroRecvTimeout => "recv_timeout_ms must be non-zero"
  | zeroStatsInterval => "stats_interval_ms must be non-zero"

/-- The most bytes that a datagram over IPv4 can carry. -/
def maxDatagram : UInt64 := 65507

/-- What makes the configuration unusable, if anything does. -/
def violation? (c : Config) : Except Panic (Option Violation) := do
  if c.baudRate = 0 then
    return some .zeroBaudRate
  if c.aggregateMaxPayload < UInt64.ofNat Frame.maxLength then
    return some (.aggregateTooSmall c.aggregateMaxPayload)
  -- The one sum that is made of a setting. It comes before the checks below.
  if maxDatagram < (← checkedAdd c.aggregateMaxPayload (UInt64.ofNat Aggregate.headerLength)) then
    return some (.aggregateTooLarge c.aggregateMaxPayload)
  if c.flushIntervalMs = 0 then
    return some .zeroFlushInterval
  if c.serialTxBuffer < UInt64.ofNat Frame.maxLength then
    return some (.serialBufferTooSmall c.serialTxBuffer)
  if c.recvTimeoutMs = 0 then
    return some .zeroRecvTimeout
  if c.statsIntervalMs = 0 then
    return some .zeroStatsInterval
  return none

/-- The configuration itself if it is usable. -/
def validate (c : Config) : Except Fault Config :=
  match c.violation? with
  | .error panic => .error (.panic panic)
  | .ok (some violation) => .error (.error (.config violation.message))
  | .ok none => .ok c

/-! ## What the checks come to -/

/-- A check that reports passes exactly if what it looks for is not there and the checks behind it
pass. -/
theorem report_eq_ok_none_iff {ε α : Type} {p : Prop} [Decidable p] {a : α}
    {rest : Except ε (Option α)} :
    (if p then pure (some a) else rest) = .ok none ↔ ¬ p ∧ rest = .ok none := by
  by_cases h : p
  · rw [if_pos h]
    exact iff_of_false nofun fun hpasses => hpasses.1 h
  · rw [if_neg h, and_iff_right h]

/-- A check that reports does not panic itself. -/
theorem report_eq_error_iff {ε α : Type} {p : Prop} [Decidable p] {a : α}
    {rest : Except ε (Option α)} {e : ε} :
    (if p then pure (some a) else rest) = .error e ↔ ¬ p ∧ rest = .error e := by
  by_cases h : p
  · rw [if_pos h]
    exact iff_of_false nofun fun hpasses => hpasses.1 h
  · rw [if_neg h, and_iff_right h]

/-- Every check has to pass. There has to be a sum for that, and it is the exact one. -/
theorem violation?_eq_ok_none_iff {c : Config} :
    c.violation? = .ok none ↔
      c.baudRate ≠ 0 ∧ Frame.maxLength ≤ c.aggregateMaxPayload.toNat ∧
        c.aggregateMaxPayload.toNat + Aggregate.headerLength ≤ maxDatagram.toNat ∧
        c.flushIntervalMs ≠ 0 ∧ Frame.maxLength ≤ c.serialTxBuffer.toNat ∧
        c.recvTimeoutMs ≠ 0 ∧ c.statsIntervalMs ≠ 0 := by
  -- The checks compare machine words, and the statement the numbers that they stand for.
  have hlength : (UInt64.ofNat Frame.maxLength).toNat = Frame.maxLength := rfl
  have hheader : (UInt64.ofNat Aggregate.headerLength).toNat = Aggregate.headerLength := rfl
  unfold violation?
  rw [report_eq_ok_none_iff, report_eq_ok_none_iff]
  cases hsum : checkedAdd c.aggregateMaxPayload (UInt64.ofNat Aggregate.headerLength) with
  | error panic =>
    have hgreat := checkedAdd_eq_error_iff.1 hsum
    -- A sum that does not exist would be greater than any word, and so than the largest datagram.
    have hword : maxDatagram.toNat < UInt64.size := by decide
    rw [hheader] at hgreat
    refine iff_of_false (fun ⟨_, _, hpanics⟩ => nomatch hpanics) fun ⟨_, _, hfits, _⟩ => ?_
    omega
  | ok sum =>
    have hexact := checkedAdd_eq_ok_iff.1 hsum
    have hdone : (pure none : Except Panic (Option Violation)) = .ok none ↔ True :=
      iff_true_intro rfl
    rw [hheader] at hexact
    show _ ∧ _ ∧ (if maxDatagram < sum then _ else _) = _ ↔ _
    simp only [report_eq_ok_none_iff, UInt64.lt_iff_toNat_lt, hlength, hexact, Nat.not_lt, ne_eq,
      hdone, and_true]

/-- The checks panic exactly if there is no such sum and the first check passes: a payload for which
there is none is not too small, so that no other check ends before it. -/
theorem violation?_eq_error_iff {c : Config} {panic : Panic} :
    c.violation? = .error panic ↔
      c.baudRate ≠ 0 ∧
        UInt64.size ≤ c.aggregateMaxPayload.toNat + Aggregate.headerLength := by
  have hlength : (UInt64.ofNat Frame.maxLength).toNat = Frame.maxLength := rfl
  have hheader : (UInt64.ofNat Aggregate.headerLength).toNat = Aggregate.headerLength := rfl
  unfold violation?
  rw [report_eq_error_iff, report_eq_error_iff, UInt64.lt_iff_toNat_lt, hlength]
  cases hsum : checkedAdd c.aggregateMaxPayload (UInt64.ofNat Aggregate.headerLength) with
  | error panic' =>
    have hgreat := checkedAdd_eq_error_iff.1 hsum
    have hframe : Frame.maxLength + Aggregate.headerLength ≤ UInt64.size := by decide
    rw [hheader] at hgreat
    have hlong : ¬ c.aggregateMaxPayload.toNat < Frame.maxLength := by omega
    cases panic
    cases panic'
    exact and_congr_right fun _ => ⟨fun _ => hgreat, fun _ => ⟨hlong, rfl⟩⟩
  | ok sum =>
    have hsmall : ¬ UInt64.size ≤ c.aggregateMaxPayload.toNat + Aggregate.headerLength := by
      rw [← hheader]
      intro hgreat
      cases hsum.symm.trans ((checkedAdd_eq_error_iff.2 hgreat : _ = .error panic))
    refine iff_of_false (fun ⟨_, _, hpanics⟩ => ?_) fun h => hsmall h.2
    -- None of the checks behind the sum panics.
    change (if maxDatagram < sum then _ else _) = _ at hpanics
    simp only [report_eq_error_iff] at hpanics
    cases hpanics.2.2.2.2.2

theorem validate_eq_ok_iff {c : Config} : c.validate = .ok c ↔ c.violation? = .ok none := by
  unfold validate
  rcases c.violation? with panic | (_ | violation)
  · exact iff_of_false nofun nofun
  · exact iff_of_true rfl rfl
  · exact iff_of_false nofun nofun

/-- No panic of the checks is taken for an error. -/
theorem validate_eq_panic_iff {c : Config} {panic : Panic} :
    c.validate = .error (.panic panic) ↔ c.violation? = .error panic := by
  unfold validate
  rcases c.violation? with panic' | (_ | violation)
  · rw [Except.error.injEq, Except.error.injEq, Fault.panic.injEq]
  · exact iff_of_false nofun nofun
  · refine iff_of_false (fun h => ?_) nofun
    cases h

/-- A usable configuration lets a batch hold the longest frame. -/
theorem maxLength_le_of_validate {c : Config} (h : c.validate = .ok c) :
    Frame.maxLength ≤ c.aggregateMaxPayload.toNat :=
  (violation?_eq_ok_none_iff.1 (validate_eq_ok_iff.1 h)).2.1

/-- A usable configuration lets the output buffer hold the longest frame. -/
theorem maxLength_le_serialTxBuffer_of_validate {c : Config} (h : c.validate = .ok c) :
    Frame.maxLength ≤ c.serialTxBuffer.toNat :=
  (violation?_eq_ok_none_iff.1 (validate_eq_ok_iff.1 h)).2.2.2.2.1

end VehicleLink.Config
