import VehicleLink.Downlink.Run
import VehicleLink.Proofs.Frame.Whole

/-!
# What comes in during a run

Which frames and datagrams a run of the downlink worker has to pass on can be told from its
iterations alone, without the worker: the frames that the bytes from the serial line complete, and
the front part of each injected datagram that is not empty, in the order in which the worker comes
to them (`arrivals`). An iteration in which waiting fails brings nothing, and one in which the
serial line fails brings no datagrams; both end the run.
-/

namespace VehicleLink.Downlink

/-- What came in and is to be passed on. -/
inductive Arrival where
  /-- A frame from the serial line. -/
  | frame (frame : Frame) (receivedMicros : UInt64)
  /-- What was taken in of an injected datagram. -/
  | injected (bytes : Bytes) (receivedMicros : UInt64)
deriving DecidableEq, Repr

/-- The bytes that are passed on. -/
def Arrival.bytes : Arrival → Bytes
  | frame f _ => f.bytes
  | injected bytes _ => bytes

/-- When it came in. -/
def Arrival.micros : Arrival → UInt64
  | frame _ micros | injected _ micros => micros

/-- Whom it is for. What is injected is for everyone. -/
def Arrival.targets : Arrival → Option Targets
  | frame f _ => Targets.ofPayload? f.header.messageId f.payload
  | injected _ _ => none

/-- Whether the primary controller does not get it. -/
def Arrival.isBulk (bulkIds : List UInt32) : Arrival → Bool
  | frame f _ => bulkIds.contains f.header.messageId
  | injected _ _ => false

/-- What the primary controller has to get, in order. -/
def forPrimary (bulkIds : List UInt32) (arrivals : List Arrival) : List Bytes :=
  (arrivals.filter fun a => !a.isBulk bulkIds).map Arrival.bytes

theorem forPrimary_append (bulkIds : List UInt32) (first second : List Arrival) :
    forPrimary bulkIds (first ++ second) =
      forPrimary bulkIds first ++ forPrimary bulkIds second := by
  unfold forPrimary
  rw [List.filter_append, List.map_append]

theorem forPrimary_of_bulk {bulkIds : List UInt32} {a : Arrival} (h : a.isBulk bulkIds = true) :
    forPrimary bulkIds [a] = [] := by
  simp [forPrimary, h]

theorem forPrimary_of_not_bulk {bulkIds : List UInt32} {a : Arrival}
    (h : a.isBulk bulkIds = false) : forPrimary bulkIds [a] = [a.bytes] := by
  simp [forPrimary, h]

/-- What of it goes into batches with this limit, in order. A frame that is longer than any batch is
left out. -/
def collected (bulkIds : List UInt32) (limit : Nat) (arrivals : List Arrival) : List Bytes :=
  (forPrimary bulkIds arrivals).filter fun bytes => bytes.length ≤ limit

theorem collected_append (bulkIds : List UInt32) (limit : Nat) (first second : List Arrival) :
    collected bulkIds limit (first ++ second) =
      collected bulkIds limit first ++ collected bulkIds limit second := by
  unfold collected
  rw [forPrimary_append, List.filter_append]

theorem collected_mono (bulkIds : List UInt32) (limit : Nat) {first second : List Arrival}
    (h : first <+: second) : collected bulkIds limit first <+: collected bulkIds limit second := by
  obtain ⟨rest, rfl⟩ := h
  rw [collected_append]
  exact List.prefix_append _ _

theorem collected_of_bulk {bulkIds : List UInt32} {limit : Nat} {a : Arrival}
    (h : a.isBulk bulkIds = true) : collected bulkIds limit [a] = [] := by
  rw [collected, forPrimary_of_bulk h, List.filter_nil]

theorem collected_of_not_bulk {bulkIds : List UInt32} {limit : Nat} {a : Arrival}
    (h : a.isBulk bulkIds = false) :
    collected bulkIds limit [a] = if a.bytes.length ≤ limit then [a.bytes] else [] := by
  rw [collected, forPrimary_of_not_bulk h, List.filter_cons, List.filter_nil]
  simp only [decide_eq_true_eq]

/-- Within the limit nothing is left out. -/
theorem collected_of_le {bulkIds : List UInt32} {limit : Nat} {arrivals : List Arrival}
    (h : ∀ a ∈ arrivals, a.bytes.length ≤ limit) :
    collected bulkIds limit arrivals = forPrimary bulkIds arrivals := by
  -- Every frame that is for the primary controller is one of those that came in.
  refine List.filter_eq_self.2 fun bytes hbytes => ?_
  obtain ⟨a, ha, rfl⟩ := List.mem_map.1 hbytes
  exact decide_eq_true (h a (List.mem_filter.1 ha).1)

/-- A limit that nothing reaches makes no difference. -/
theorem collected_min {bulkIds : List UInt32} {limit other : Nat} {arrivals : List Arrival}
    (h : ∀ a ∈ arrivals, a.bytes.length ≤ other) :
    collected bulkIds (min limit other) arrivals = collected bulkIds limit arrivals := by
  refine List.filter_congr fun bytes hbytes => ?_
  obtain ⟨a, ha, rfl⟩ := List.mem_map.1 hbytes
  have hother : a.bytes.length ≤ other := h a (List.mem_filter.1 ha).1
  exact decide_eq_decide.2 (Nat.le_min.trans (and_iff_left hother))

/-! ## One iteration -/

namespace SerialRead

/-- The bytes that came in, if any did, with the time at which they came. -/
def piece? : SerialRead → Option (Bytes × UInt64)
  | received [] _ => none
  | received piece receivedMicros => some (piece, receivedMicros)
  | notReady => none
  | failed _ => none

/-- Why the loop ends here, if it does. Reading nothing means that the line is gone. -/
def failure? : SerialRead → Option RelayError
  | received [] _ => some (.io "serial port closed")
  | received _ _ => none
  | notReady => none
  | failed reason => some (.io reason)

/-- The frames that the bytes complete, when those in the scanner came before. -/
def arrivals (s : Scanner) (read : SerialRead) : List Arrival :=
  match read.piece? with
  | none => []
  | some (piece, receivedMicros) => (s.push piece).drain.1.map (.frame · receivedMicros)

/-- The scanner after the reading. -/
def scanner (s : Scanner) (read : SerialRead) : Scanner :=
  match read.piece? with
  | none => s
  | some (piece, _) => (s.push piece).drain.2

end SerialRead

/-- What is taken in of an injected datagram, unless it is empty. -/
def Injection.arrival? (injection : Injection) : Option Arrival :=
  match injection.bytes.take injectLength with
  | [] => none
  | bytes => some (.injected bytes injection.receivedMicros)

namespace Iteration

/-- What came of reading from the serial line. Waiting may have told that there is nothing to
read. -/
def read (i : Iteration) : SerialRead :=
  match i.wakeup with
  | .failed reason => .failed reason
  | .ready _ serial _ _ => serial.getD .notReady

/-- The datagrams that came for injection. -/
def injections (i : Iteration) : List Injection :=
  match i.wakeup with
  | .failed _ => []
  | .ready _ _ injected _ => injected

/-- What came in: first from the serial line and then, unless that failed, from the injection
socket. -/
def arrivals (s : Scanner) (i : Iteration) : List Arrival :=
  i.read.arrivals s ++ match i.read.failure? with
  | some _ => []
  | none => i.injections.filterMap Injection.arrival?

end Iteration

/-! ## Whole runs -/

/-- Why the loop over the iterations ends before it is told to, if it does. -/
def failure? : List Iteration → Option RelayError
  | [] => none
  | i :: rest => i.read.failure?.or (failure? rest)

/-- What comes in until the loop ends. -/
def arrivals (s : Scanner) : List Iteration → List Arrival
  | [] => []
  | i :: rest => i.arrivals s ++ match i.read.failure? with
    | some _ => []
    | none => arrivals (i.read.scanner s) rest

/-- The scanner after the loop over the iterations, if none of them ends it. -/
def scannerAfter (s : Scanner) (iterations : List Iteration) : Scanner :=
  iterations.foldl (fun s i => i.read.scanner s) s

/-- The first iteration that ends the loop tells why. -/
theorem failure?_append (first second : List Iteration) :
    failure? (first ++ second) = (failure? first).or (failure? second) := by
  induction first with
  | nil => rfl
  | cons i rest ih =>
    show i.read.failure?.or (failure? (rest ++ second)) = _
    rw [ih, ← Option.or_assoc]
    rfl

/-- What comes in after some iterations comes in as if they were not there, but for the bytes that
they leave in the scanner. -/
theorem arrivals_append {first : List Iteration} (h : failure? first = none) (s : Scanner)
    (second : List Iteration) :
    arrivals s (first ++ second) = arrivals s first ++ arrivals (scannerAfter s first) second := by
  induction first generalizing s with
  | nil => rfl
  | cons i rest ih =>
    obtain ⟨hfirst, hrest⟩ := Option.or_eq_none_iff.1 h
    show i.arrivals s ++ _ = (i.arrivals s ++ _) ++ _
    -- The first iteration does not end the loop, so that the rest follows in both.
    rw [hfirst]
    show i.arrivals s ++ arrivals (i.read.scanner s) (rest ++ second) = _
    rw [ih hrest, List.append_assoc]
    rfl

/-- What came in up to an iteration comes in first, whatever follows. -/
theorem prefix_arrivals_append_cons {earlier : List Iteration} (h : failure? earlier = none)
    (s : Scanner) (i : Iteration) (later : List Iteration) :
    arrivals s (earlier ++ [i]) <+: arrivals s (earlier ++ i :: later) := by
  rw [arrivals_append h, arrivals_append h, List.prefix_append_right_inj]
  unfold arrivals
  cases i.read.failure? with
  | some error => exact List.prefix_refl _
  | none =>
    rw [arrivals, List.append_nil]
    exact List.prefix_append _ _

/-! ## What all arrivals have in common -/

theorem Injection.arrival?_of_ne_nil {injection : Injection} (h : injection.bytes ≠ []) :
    injection.arrival? =
      some (.injected (injection.bytes.take injectLength) injection.receivedMicros) := by
  unfold arrival?
  split
  · rename_i hnil
    exact absurd ((List.take_eq_nil_iff.1 hnil).resolve_left (by decide)) h
  · rfl

theorem Injection.eq_of_arrival? {injection : Injection} {a : Arrival}
    (h : injection.arrival? = some a) :
    a = .injected (injection.bytes.take injectLength) injection.receivedMicros := by
  unfold arrival? at h
  split at h
  · cases h
  · exact (Option.some.inj h).symm

/-- What holds of all whole frames and of what is taken in of each injected datagram holds of all
that comes in. -/
theorem forall_mem_arrivals {P : Arrival → Prop}
    (hframe : ∀ f micros, f.Whole → P (.frame f micros))
    {iterations : List Iteration}
    (hinjected : ∀ i ∈ iterations, ∀ injection ∈ i.injections,
      P (.injected (injection.bytes.take injectLength) injection.receivedMicros))
    (s : Scanner) : ∀ a ∈ arrivals s iterations, P a := by
  induction iterations generalizing s with
  | nil => exact fun a ha => absurd ha List.not_mem_nil
  | cons i rest ih =>
    -- From the line come whole frames only, and from the socket the front parts of datagrams.
    have hserial : ∀ a ∈ i.read.arrivals s, P a := by
      intro a ha
      unfold SerialRead.arrivals at ha
      split at ha
      · exact absurd ha List.not_mem_nil
      · obtain ⟨f, hf, rfl⟩ := List.mem_map.1 ha
        exact hframe f _ (Scanner.whole_of_mem_drain hf)
    have hsocket : ∀ a ∈ i.injections.filterMap Injection.arrival?, P a := by
      intro a ha
      obtain ⟨injection, hinjection, harrival⟩ := List.mem_filterMap.1 ha
      rw [Injection.eq_of_arrival? harrival]
      exact hinjected i List.mem_cons_self injection hinjection
    have hrest := ih (fun j hj => hinjected j (List.mem_cons_of_mem i hj)) (i.read.scanner s)
    intro a ha
    unfold arrivals Iteration.arrivals at ha
    cases hread : i.read.failure? with
    | some reason =>
      simp only [hread, List.append_nil] at ha
      exact hserial a ha
    | none =>
      simp only [hread, List.mem_append] at ha
      rcases ha with (hmem | hmem) | hmem
      · exact hserial a hmem
      · exact hsocket a hmem
      · exact hrest a hmem

/-- If each injected datagram is within the limit, then so is all that comes in. -/
theorem length_le_of_mem_arrivals {limit : Nat} {iterations : List Iteration}
    (hlimit : Frame.maxLength ≤ limit)
    (hinjected : ∀ i ∈ iterations, ∀ injection ∈ i.injections,
      (injection.bytes.take injectLength).length ≤ limit)
    (s : Scanner) {a : Arrival} (ha : a ∈ arrivals s iterations) : a.bytes.length ≤ limit :=
  forall_mem_arrivals (P := fun a => a.bytes.length ≤ limit)
    (fun _ _ hf => Nat.le_trans hf.length_le hlimit) hinjected s a ha

/-- No more is taken in of a datagram. -/
theorem length_le_injectLength_of_mem_arrivals {s : Scanner} {iterations : List Iteration}
    {a : Arrival} (ha : a ∈ arrivals s iterations) : a.bytes.length ≤ injectLength :=
  length_le_of_mem_arrivals (by decide) (fun _ _ _ _ => List.length_take_le _ _) s ha

end VehicleLink.Downlink
