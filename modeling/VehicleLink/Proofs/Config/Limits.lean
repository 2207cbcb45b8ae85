import VehicleLink.Config.Validation
import VehicleLink.Proofs.Aggregate.Histories
import VehicleLink.Proofs.Frame.Whole
import VehicleLink.Uplink.Basic

/-!
# What the sizes of a usable configuration guarantee

A batch is never longer than its header and its limit together, and for every limit there is one
that is as long as that (`Aggregate.length_le_of_taken`, `Aggregate.exists_longest`). So whether
batches fit into datagrams is a question about the limit alone (`batches_fit_iff`), and the check of
the limit asks it. The check adds the header's length to the limit, and for the 26 greatest limits
of all that sum is no machine word. They are not refused: the program panics over them
(`usable_sizes_safe_and_overflow_panics`).
-/

namespace VehicleLink

/-! ## The longest batch -/

namespace Aggregate

variable {a : Aggregate} {limit : Nat} {events : List Event}

/-- What is taken from an aggregate is its header and what waits in it. -/
theorem Follows.length_of_perform (h : Follows limit events a) {call : Call} {datagram : Bytes}
    (htaken : (a.perform call).1 = .taken datagram) :
    datagram.length = headerLength + a.payload.length := by
  -- Of the calls only an emptying hands out a batch, and only if a frame was added.
  cases call with
  | append frame micros =>
    simp only [Aggregate.perform] at htaken
    split at htaken <;> cases htaken
  | addBlocked micros => cases htaken
  | take sequence sentMicros =>
    by_cases hadded : added events = []
    · simp only [Aggregate.perform, h.take?_of_eq_nil hadded] at htaken
      cases htaken
    · simp only [Aggregate.perform, h.take?_of_ne_nil hadded, Event.taken.injEq] at htaken
      rw [← htaken, List.length_append, Header.length_encode]

/-- Whatever happened to an aggregate, what is taken from it is a header and no more than the
limit. -/
theorem Follows.length_le_of_taken (h : Follows limit events a) {calls : List Call}
    {datagram : Bytes} (hmem : .taken datagram ∈ (a.performAll calls).1) :
    datagram.length ≤ headerLength + min limit maxLimit := by
  induction calls generalizing a events with
  | nil => exact absurd hmem List.not_mem_nil
  | cons call rest ih =>
    rcases List.mem_cons.1 hmem with hnow | hlater
    · have hpayload : a.payload.length ≤ min limit maxLimit :=
        h.sized.size_eq ▸ h.limit_eq ▸ h.sized.size_le
      rw [h.length_of_perform hnow.symm]
      exact Nat.add_le_add_left hpayload headerLength
    · exact ih (h.perform call) hlater

/-- No batch is longer than its header and the limit, as the aggregate clamps it. -/
theorem length_le_of_taken {calls : List Call} {datagram : Bytes}
    (h : .taken datagram ∈ ((empty limit).performAll calls).1) :
    datagram.length ≤ headerLength + min limit maxLimit :=
  (follows_empty limit).length_le_of_taken h

/-- After any history, an aggregate in which no frame waits has room for any frame within its
limit. -/
theorem Follows.append_of_isEmpty (h : Follows limit events a) (hempty : a.isEmpty = true)
    {frame : Bytes} (hframe : frame.length ≤ min limit maxLimit) (micros : UInt64) :
    ∃ b, a.append frame micros = .ok b := by
  have hsize : a.size = 0 := by
    rw [h.sized.size_eq, payload, Aggregate.isEmpty_iff.1 hempty]
    rfl
  have hlimit : a.limit = min limit maxLimit := h.limit_eq
  exact ⟨_, append_of_fits (by omega)⟩

/-- A frame that fills the aggregate makes the longest batch. -/
theorem exists_longest (limit : Nat) :
    ∃ calls datagram, .taken datagram ∈ ((empty limit).performAll calls).1 ∧
      datagram.length = headerLength + min limit maxLimit := by
  -- What the bytes are does not matter: an aggregate does not look into its frames.
  let frame : Bytes := List.replicate (min limit maxLimit) 0
  have hlength : frame.length = min limit maxLimit := List.length_replicate
  obtain ⟨filled, happend⟩ := (follows_empty limit).append_of_isEmpty rfl (Nat.le_of_eq hlength) 0
  have hpayload : filled.payload = frame := by
    rw [payload, (frames_of_append happend).1]
    exact List.flatten_singleton
  have htake := ((follows_empty limit).append happend).take?_of_ne_nil (List.cons_ne_nil _ _) 0 0
  refine ⟨[.append frame 0, .take 0 0], (filled.header 0 0).encode ++ filled.payload, ?_, ?_⟩
  · simp only [performAll, perform, happend, htake]
    exact List.mem_cons_of_mem _ List.mem_cons_self
  · rw [List.length_append, Header.length_encode, hpayload, hlength]

end Aggregate

/-! ## The check of the limit -/

namespace Config

/-- The sum of the greatest payload and the header's length is no machine word. -/
def SumOverflows (c : Config) : Prop :=
  UInt64.size ≤ c.aggregateMaxPayload.toNat + Aggregate.headerLength

instance (c : Config) : Decidable c.SumOverflows := inferInstanceAs (Decidable (_ ≤ _))

/-- Within the greatest datagram the batches stay exactly if their limit is that much less. -/
theorem batches_fit_iff (limit : Nat) :
    (∀ calls datagram, .taken datagram ∈ ((Aggregate.empty limit).performAll calls).1 →
      datagram.length ≤ maxDatagram.toNat) ↔
    limit + Aggregate.headerLength ≤ maxDatagram.toNat := by
  have hheader : Aggregate.headerLength = 26 := rfl
  have hmax : Aggregate.maxLimit = 65535 := rfl
  have hdatagram : maxDatagram.toNat = 65507 := rfl
  constructor
  · intro hall
    obtain ⟨calls, datagram, htaken, hlength⟩ := Aggregate.exists_longest limit
    have hshort := hall calls datagram htaken
    -- The aggregate clamps its limit, but only beyond what a datagram holds.
    omega
  · intro hlimit calls datagram htaken
    have hlength := Aggregate.length_le_of_taken htaken
    omega

/-- A limit is reported as too large if the checks before it pass and the sum is a machine word
beyond the greatest datagram. -/
theorem violation?_eq_aggregateTooLarge {c : Config} (hbaud : c.baudRate ≠ 0)
    (hframe : Frame.maxLength ≤ c.aggregateMaxPayload.toNat)
    (hlarge : maxDatagram.toNat < c.aggregateMaxPayload.toNat + Aggregate.headerLength)
    (hsum : ¬ c.SumOverflows) :
    c.violation? = .ok (some (.aggregateTooLarge c.aggregateMaxPayload)) := by
  have hlength : (UInt64.ofNat Frame.maxLength).toNat = Frame.maxLength := rfl
  have hlong : ¬ c.aggregateMaxPayload < UInt64.ofNat Frame.maxLength := by
    rw [UInt64.lt_iff_toNat_lt, hlength]
    exact Nat.not_lt.2 hframe
  unfold violation?
  -- The two checks in front pass, so that the sum is looked at.
  rw [if_neg hbaud, if_neg hlong]
  cases hadd : checkedAdd c.aggregateMaxPayload (UInt64.ofNat Aggregate.headerLength) with
  | error panic => exact absurd (checkedAdd_eq_error_iff.1 hadd) hsum
  | ok sum =>
    have hgreater : maxDatagram < sum := by
      rw [UInt64.lt_iff_toNat_lt, checkedAdd_eq_ok_iff.1 hadd]
      exact hlarge
    exact if_pos hgreater

/-- A usable configuration starts an uplink worker, and its empty output buffer has room for one
frame. -/
theorem start_of_validate {c : Config} (h : c.validate = .ok c) (state : State) (now : Nat) :
    ∃ w, Uplink.start c state now = .ok w ∧ ∀ datagram header,
      Frame.inspect datagram = .ok header → w.backpressure.hasRoom 0 datagram.length = true := by
  obtain ⟨-, -, -, -, hbuffer, hrecv, -⟩ := violation?_eq_ok_none_iff.1 (validate_eq_ok_iff.1 h)
  refine ⟨_, if_neg hrecv, fun datagram header hinspect => decide_eq_true ?_⟩
  have hlength : datagram.length = header.frameLength := (Frame.inspect_eq_ok_iff.1 hinspect).2
  rw [hlength, Nat.sub_zero]
  exact Nat.le_trans header.frameLength_le hbuffer

/-! ## The theorem -/

/-- **Usable sizes are safe, but the check panics where its sum overflows.** A configuration is
usable exactly if five settings are in order and the greatest payload holds the longest frame and
fits into a datagram behind its header, which is to say that all batches do. In a usable
configuration every frame fits into an empty aggregate, whatever happened to it before, and every
datagram that is one frame has room in an empty output buffer.

The check gives a result, an error or a panic. It panics exactly if the baud rate is in order and
the sum of the greatest payload and the header's length is no machine word. Every other payload that
is too great is reported as such, unless the baud rate is reported first. -/
theorem usable_sizes_safe_and_overflow_panics (c : Config) :
    let limit := c.aggregateMaxPayload.toNat
    (c.validate = .ok c ↔
      (c.baudRate ≠ 0 ∧ c.flushIntervalMs ≠ 0 ∧ 280 ≤ c.serialTxBuffer.toNat ∧
        c.recvTimeoutMs ≠ 0 ∧ c.statsIntervalMs ≠ 0) ∧
      280 ≤ limit ∧ limit + Aggregate.headerLength ≤ 65507) ∧
    ((∀ calls datagram, .taken datagram ∈ ((Aggregate.empty limit).performAll calls).1 →
      datagram.length ≤ 65507) ↔ limit + Aggregate.headerLength ≤ 65507) ∧
    (c.validate = .ok c →
      (∀ calls datagram, .taken datagram ∈ ((Aggregate.empty limit).performAll calls).1 →
        datagram.length ≤ 65507) ∧
      (∀ calls, let a := ((Aggregate.empty limit).performAll calls).2
        a.isEmpty = true → ∀ frame micros, frame.length ≤ 280 →
          ∃ b, a.append frame micros = .ok b) ∧
      ∀ state now, ∃ w, Uplink.start c state now = .ok w ∧
        ∀ datagram header, Frame.inspect datagram = .ok header →
          w.backpressure.hasRoom 0 datagram.length = true) ∧
    (c.validate = .error (.panic .addOverflow) ↔ c.baudRate ≠ 0 ∧ c.SumOverflows) ∧
    (c.baudRate ≠ 0 → 65507 < limit + Aggregate.headerLength → ¬ c.SumOverflows →
      c.validate = .error (.error (.config
        s!"aggregate_max_payload {limit} does not fit in a UDP datagram"))) := by
  intro limit
  have hvalid : c.validate = .ok c ↔ _ := validate_eq_ok_iff.trans violation?_eq_ok_none_iff
  refine ⟨?_, batches_fit_iff limit, fun hok => ⟨?_, ?_, start_of_validate hok⟩,
    validate_eq_panic_iff.trans violation?_eq_error_iff, ?_⟩
  · rw [hvalid]
    exact ⟨fun ⟨hbaud, hframe, hfits, hflush, hbuffer, hrecv, hstats⟩ =>
        ⟨⟨hbaud, hflush, hbuffer, hrecv, hstats⟩, hframe, hfits⟩,
      fun ⟨⟨hbaud, hflush, hbuffer, hrecv, hstats⟩, hframe, hfits⟩ =>
        ⟨hbaud, hframe, hfits, hflush, hbuffer, hrecv, hstats⟩⟩
  · obtain ⟨-, -, hfits, -⟩ := hvalid.1 hok
    exact (batches_fit_iff limit).2 hfits
  · intro calls a hempty frame micros hframe
    -- The clamp is no obstacle, since it lies far beyond the longest frame.
    have hholds : Frame.maxLength ≤ min limit Aggregate.maxLimit :=
      Nat.le_min.2 ⟨maxLength_le_of_validate hok, by decide⟩
    exact ((Aggregate.follows_empty limit).performAll calls).append_of_isEmpty hempty
      (Nat.le_trans hframe hholds) micros
  · intro hbaud hlarge hsum
    -- A payload beyond a datagram is not too small, so that the check before this one passes.
    have hframe : Frame.maxLength ≤ limit := by
      have hmax : Frame.maxLength = 280 := rfl
      have hheader : Aggregate.headerLength = 26 := rfl
      omega
    unfold validate
    rw [violation?_eq_aggregateTooLarge hbaud hframe hlarge hsum]
    rfl

/-- The greatest limit whose batches fit. -/
theorem greatest_usable_limit_fits :
    let c : Config := { aggregateMaxPayload := 65481, serialTxBuffer := 280 }
    c.validate = .ok c ∧
    (∀ calls datagram, .taken datagram ∈ ((Aggregate.empty 65481).performAll calls).1 →
      datagram.length ≤ 65507) ∧
    (∃ w, Uplink.start c (.empty c.primaryAddress c.clientTimeout) 0 = .ok w ∧
      w.backpressure.hasRoom 0 8 = true) ∧
    ({ aggregateMaxPayload := 65482 } : Config).validate =
      .error (.error (.config "aggregate_max_payload 65482 does not fit in a UDP datagram")) := by
  intro c
  obtain ⟨-, -, hsafe, -, -⟩ := usable_sizes_safe_and_overflow_panics c
  obtain ⟨-, -, -, -, hreported⟩ :=
    usable_sizes_safe_and_overflow_panics { aggregateMaxPayload := 65482 }
  obtain ⟨hbatches, -, hstart⟩ := hsafe rfl
  obtain ⟨w, hw, hroom⟩ := hstart (.empty c.primaryAddress c.clientTimeout) 0
  exact ⟨rfl, hbatches, ⟨w, hw, hroom [0xFE, 0, 0, 1, 1, 0, 0, 0] _ rfl⟩,
    hreported (by decide) (by decide) (by decide)⟩

/-- The least limit whose sum overflows is too great for a datagram, but it is not refused. The one
before it is. -/
theorem overflowing_limit_panics :
    let c : Config := { aggregateMaxPayload := 18446744073709551590 }
    let before : Config := { aggregateMaxPayload := 18446744073709551589 }
    65507 < c.aggregateMaxPayload.toNat + Aggregate.headerLength ∧
    c.validate = .error (.panic .addOverflow) ∧
    before.validate = .error (.error (.config
      "aggregate_max_payload 18446744073709551589 does not fit in a UDP datagram")) := by
  exact ⟨by decide, rfl, rfl⟩

end Config

end VehicleLink
