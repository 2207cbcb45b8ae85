import VehicleLink.Proofs.Aggregate.Collecting
import VehicleLink.Proofs.Directory.Delivery
import VehicleLink.Proofs.Downlink.Actions

/-!
# What the primary controller gets

Frames and injected datagrams go into the aggregate one after the other and leave it in batches:
when there is no room, when the aggregate is nearly full, while the gate is locked, at a deadline
and at the end. The invariant `Downlink.Ledger` ties together what came in, what was sent to the
primary controller and what still waits: the batches sent so far, and then the waiting frames, are
all that came in. Each operation keeps it, so that at the end of a run, when nothing waits any more,
the batches alone are all that came in (`primary_gets_all_in_order`).

No other datagram goes to the primary controller, because it is never registered as a client. That
holds whatever other threads do to the directory meanwhile.
-/

namespace VehicleLink

namespace Aggregate

/-- The datagram carries the frames, under the given number. -/
structure Carries (limit : Nat) (sequence : UInt32) (frames : List Bytes) (datagram : Bytes) :
    Prop where
  ne_nil : frames ≠ []
  length_le : frames.flatten.length ≤ limit
  decode_eq : ∃ header, decode datagram = .ok (header, frames.flatten) ∧
    header.sequence = sequence

/-- The datagrams carry the batches, one each, and are numbered from zero on, modulo `2 ^ 32`. -/
structure Batched (limit : Nat) (batches : List (List Bytes)) (datagrams : List Bytes) : Prop where
  length_eq : datagrams.length = batches.length
  carries : ∀ {i frames datagram}, batches[i]? = some frames → datagrams[i]? = some datagram →
    Carries limit (UInt32.ofNat i) frames datagram

variable {limit : Nat} {batches : List (List Bytes)} {datagrams : List Bytes}

theorem batched_nil (limit : Nat) : Batched limit [] [] :=
  ⟨rfl, fun h => nomatch h⟩

/-- One more datagram that carries one more batch. -/
theorem Batched.concat (h : Batched limit batches datagrams) {frames : List Bytes}
    {datagram : Bytes} (hlast : Carries limit (UInt32.ofNat batches.length) frames datagram) :
    Batched limit (batches ++ [frames]) (datagrams ++ [datagram]) := by
  refine ⟨by simp only [List.length_append, h.length_eq, List.length_singleton], ?_⟩
  intro i frames' datagram' hframes hdatagram
  by_cases hi : i < batches.length
  · -- One of the earlier batches.
    rw [List.getElem?_append_left hi] at hframes
    rw [List.getElem?_append_left (h.length_eq ▸ hi)] at hdatagram
    exact h.carries hframes hdatagram
  · have hle : batches.length ≤ i := Nat.le_of_not_lt hi
    rw [List.getElem?_append_right hle, List.getElem?_singleton] at hframes
    rw [List.getElem?_append_right (h.length_eq ▸ hle), List.getElem?_singleton] at hdatagram
    split at hframes
    · -- The batch that was added, at the place just past the earlier ones.
      have hlength : i = batches.length := by omega
      have hsame : i - datagrams.length = 0 := by
        rw [h.length_eq]
        omega
      rw [if_pos hsame] at hdatagram
      cases hframes
      cases hdatagram
      exact hlength ▸ hlast
    · cases hframes

theorem Batched.mono (h : Batched limit batches datagrams) {greater : Nat} (hle : limit ≤ greater) :
    Batched greater batches datagrams := by
  refine ⟨h.length_eq, fun hframes hdatagram => ?_⟩
  have hcarries := h.carries hframes hdatagram
  exact ⟨hcarries.ne_nil, Nat.le_trans hcarries.length_le hle, hcarries.decode_eq⟩

end Aggregate

namespace Downlink

/-! ## What the ledger is about -/

/-- The datagrams for the target among those that were handed to the socket, in order. -/
def datagramsTo (target : SocketAddress) (sent : Array SendAttempt) : List Bytes :=
  (sent.toList.filter fun s => s.target = target).map SendAttempt.bytes

/-- What decides what the primary controller gets: the fields of these names of a worker and of its
state. An operation that leaves them alone keeps the ledger by definition. -/
structure Books where
  bulkIds : List UInt32
  directory : Directory
  aggregate : Aggregate
  batch : UInt32
  sent : Array SendAttempt
deriving DecidableEq

/-- What decides what the primary controller gets from this worker. -/
def books (w : Downlink) : Books where
  bulkIds := w.bulkIds
  directory := w.state.directory
  aggregate := w.aggregate
  batch := w.batch
  sent := w.sent

/-- All that `arrived` for the primary controller was sent to it or waits. -/
structure Ledger (bulkIds : List UInt32) (primary : SocketAddress) (limit : Nat)
    (arrived : List Bytes) (b : Books) : Prop where
  bulkIds_eq : b.bulkIds = bulkIds
  primary_eq : b.directory.registry.primary = primary
  apart : b.directory.registry.Apart
  sized : b.aggregate.Sized
  limit_eq : b.aggregate.limit = limit
  /-- What was sent in batches and then what waits is what arrived. -/
  batched : ∃ batches : List (List Bytes),
    batches.flatten ++ b.aggregate.frames = arrived ∧
      b.batch = UInt32.ofNat batches.length ∧
      Aggregate.Batched limit batches (datagramsTo primary b.sent)

variable {net : Network} {w : Downlink} {bulkIds : List UInt32} {primary : SocketAddress}
  {limit : Nat} {arrived : List Bytes}

theorem datagramsTo_push_self (bytes : Bytes) (delivery : Delivery) (sent : Array SendAttempt) :
    datagramsTo primary (sent.push ⟨primary, bytes, delivery⟩) =
      datagramsTo primary sent ++ [bytes] := by
  unfold datagramsTo
  rw [Array.toList_push, List.filter_append, List.map_append]
  simp

theorem datagramsTo_push_other {target : SocketAddress} (h : target ≠ primary) (bytes : Bytes)
    (delivery : Delivery) (sent : Array SendAttempt) :
    datagramsTo primary (sent.push ⟨target, bytes, delivery⟩) = datagramsTo primary sent := by
  unfold datagramsTo
  rw [Array.toList_push, List.filter_append, List.map_append]
  simp [h]

/-- Whether a datagram is taken makes no difference to what is sent. -/
theorem books_send (net : Network) (w : Downlink) (target : SocketAddress) (bytes : Bytes)
    (credit : DownlinkCounters) :
    (w.send net target bytes credit).books =
      { w.books with
        sent := w.sent.push ⟨target, bytes, net.delivery w.sent.size target⟩ } := by
  unfold send
  cases net.delivery w.sent.size target with
  | delivered => rfl
  | failed reason now => rfl

/-! ## Sending -/

/-- What goes to others is not in the ledger. -/
theorem Ledger.send_other (h : Ledger bulkIds primary limit arrived w.books)
    {target : SocketAddress} (htarget : target ≠ primary) (bytes : Bytes)
    (credit : DownlinkCounters) :
    Ledger bulkIds primary limit arrived (w.send net target bytes credit).books := by
  rw [books_send]
  obtain ⟨batches, harrived, hbatch, hbatched⟩ := h.batched
  refine ⟨h.bulkIds_eq, h.primary_eq, h.apart, h.sized, h.limit_eq, batches, harrived, hbatch, ?_⟩
  rw [datagramsTo_push_other htarget]
  exact hbatched

theorem flush_of_eq_nil (net : Network) (hframes : w.aggregate.frames = []) : w.flush net = w := by
  unfold flush
  rw [Aggregate.take?_of_eq_nil hframes]

/-- If frames wait, a flush hands over one datagram with all of them, and the next batch has the
next number. -/
theorem books_flush_of_ne_nil (net : Network) (hframes : w.aggregate.frames ≠ []) :
    (w.flush net).books =
      { w.books with
        aggregate := { limit := w.aggregate.limit }
        batch := w.batch + 1
        sent := w.sent.push
          { target := w.state.primary
            bytes := (w.aggregate.header w.batch (net.wallMicros w.sent.size)).encode
              ++ w.aggregate.payload
            delivery := net.delivery w.sent.size w.state.primary } } := by
  unfold flush
  rw [Aggregate.take?_of_ne_nil hframes]
  exact books_send net _ _ _ _

theorem frames_flush (net : Network) (w : Downlink) : (w.flush net).aggregate.frames = [] := by
  by_cases hframes : w.aggregate.frames = []
  · rw [flush_of_eq_nil net hframes]
    exact hframes
  · have hbooks := congrArg Books.aggregate (books_flush_of_ne_nil net hframes)
    exact congrArg Aggregate.frames hbooks

/-- The datagram of a flush tells all that waits, and the number of the batches before it. -/
theorem Ledger.carries_waiting (h : Ledger bulkIds primary limit arrived w.books)
    (hframes : w.aggregate.frames ≠ []) (sentMicros : UInt64) :
    Aggregate.Carries limit w.batch w.aggregate.frames
      ((w.aggregate.header w.batch sentMicros).encode ++ w.aggregate.payload) := by
  -- Reading the datagram back is what `Aggregate.Sized` is for; its length is what remains.
  refine ⟨hframes, ?_, _, h.sized.decode_take w.batch sentMicros, rfl⟩
  have hsize : w.aggregate.size = w.aggregate.frames.flatten.length := h.sized.size_eq
  have hle : w.aggregate.size ≤ w.aggregate.limit := h.sized.size_le
  have hlimit : w.aggregate.limit = limit := h.limit_eq
  omega

/-- A flush makes one more batch of what waits. -/
theorem Ledger.flush (h : Ledger bulkIds primary limit arrived w.books) :
    Ledger bulkIds primary limit arrived (w.flush net).books := by
  by_cases hframes : w.aggregate.frames = []
  · rw [flush_of_eq_nil net hframes]
    exact h
  · rw [books_flush_of_ne_nil net hframes]
    obtain ⟨batches, harrived, hbatch, hbatched⟩ := h.batched
    have hprimary : w.state.primary = primary := h.primary_eq
    have hnumber : w.batch = UInt32.ofNat batches.length := hbatch
    have hcarries := h.carries_waiting hframes (net.wallMicros w.sent.size)
    rw [hnumber] at hcarries
    -- What waited moves into the list of batches, so that the frames in both are the same as
    -- before.
    refine ⟨h.bulkIds_eq, h.primary_eq, h.apart, Aggregate.sized_of_limit h.sized.limit_le,
      h.limit_eq, batches ++ [w.aggregate.frames], ?_, ?_, ?_⟩
    · rw [List.flatten_append, List.flatten_singleton, List.append_nil]
      exact harrived
    · show w.batch + 1 = _
      rw [hnumber, List.length_append, List.length_singleton, UInt32.ofNat_add]
      rfl
    · rw [hprimary, datagramsTo_push_self, hnumber]
      exact hbatched.concat hcarries

theorem Ledger.size_flush (h : Ledger bulkIds primary limit arrived w.books) (net : Network) :
    (w.flush net).aggregate.size = 0 := by
  have hflushed : Ledger bulkIds primary limit arrived (w.flush net).books := h.flush
  have hsize : (w.flush net).aggregate.size = (w.flush net).aggregate.payload.length :=
    hflushed.sized.size_eq
  rw [hsize, Aggregate.payload, frames_flush]
  rfl

/-- Once the frames before it are sent, there is room for any frame within the limit. -/
theorem Ledger.append_flush_of_le (h : Ledger bulkIds primary limit arrived w.books)
    (net : Network) {bytes : Bytes} (hbytes : bytes.length ≤ limit) (micros : UInt64) :
    ∃ aggregate, (w.flush net).aggregate.append bytes micros = .ok aggregate := by
  have hempty := h.size_flush net
  have hflushed : Ledger bulkIds primary limit arrived (w.flush net).books := h.flush
  have hlimit : (w.flush net).aggregate.limit = limit := hflushed.limit_eq
  exact ⟨_, Aggregate.append_of_fits (by omega)⟩

/-! ## Collecting -/

/-- A frame that finds room waits behind the others. -/
theorem Ledger.append (h : Ledger bulkIds primary limit arrived w.books) {bytes : Bytes}
    {micros : UInt64} {aggregate : Aggregate}
    (happend : w.aggregate.append bytes micros = .ok aggregate) :
    Ledger bulkIds primary limit (arrived ++ [bytes]) { w with aggregate }.books := by
  obtain ⟨hframes, hlimit⟩ := Aggregate.frames_of_append happend
  obtain ⟨batches, harrived, hbatch, hbatched⟩ := h.batched
  refine ⟨h.bulkIds_eq, h.primary_eq, h.apart, h.sized.append happend, hlimit.trans h.limit_eq,
    batches, ?_, hbatch, hbatched⟩
  show batches.flatten ++ aggregate.frames = _
  rw [hframes, ← List.append_assoc]
  exact congrArg (· ++ [bytes]) harrived

/-- No frame within the limit is left out: one that is refused fits once the others are gone. -/
theorem Ledger.collect_of_le (h : Ledger bulkIds primary limit arrived w.books) {bytes : Bytes}
    (hbytes : bytes.length ≤ limit) (micros : UInt64) :
    Ledger bulkIds primary limit (arrived ++ [bytes]) (w.collect net bytes micros).books := by
  have hlimit : w.aggregate.limit = limit := h.limit_eq
  by_cases hfits : w.aggregate.size + bytes.length ≤ w.aggregate.limit
  · have happend : w.aggregate.append bytes micros = .ok _ := Aggregate.append_of_fits hfits
    unfold Downlink.collect
    rw [happend]
    exact h.append happend
  · have hsized : w.aggregate.Sized := h.sized
    -- Too long for what is left, but not for an empty batch: it is sent first, and then there is
    -- room.
    have hfull : w.aggregate.append bytes micros = .error _ :=
      hsized.append_of_full (hlimit ▸ hbytes) (Nat.lt_of_not_le hfits)
    have hflushed : Ledger bulkIds primary limit arrived (w.flush net).books := h.flush
    obtain ⟨aggregate, happend⟩ := h.append_flush_of_le net hbytes micros
    unfold Downlink.collect
    rw [hfull]
    show Ledger bulkIds primary limit (arrived ++ [bytes])
      ((w.flush net).addIfRoom bytes micros).books
    unfold addIfRoom
    rw [happend]
    exact hflushed.append happend

/-- A frame that is longer than any batch is given up, and no other frame suffers from it. -/
theorem collect_of_long (net : Network) {bytes : Bytes} (hlong : w.aggregate.limit < bytes.length)
    (micros : UInt64) : w.collect net bytes micros = w := by
  have hrefused : w.aggregate.append bytes micros =
      .error (.frameTooLarge bytes.length w.aggregate.limit) := if_pos hlong
  rw [Downlink.collect, hrefused]

/-- A frame within the limit is collected, and a longer one is left out. -/
theorem Ledger.collect (h : Ledger bulkIds primary limit arrived w.books) (bytes : Bytes)
    (micros : UInt64) :
    Ledger bulkIds primary limit (arrived ++ if bytes.length ≤ limit then [bytes] else [])
      (w.collect net bytes micros).books := by
  split
  · rename_i hbytes
    exact h.collect_of_le hbytes micros
  · rename_i hbytes
    have hlimit : w.aggregate.limit = limit := h.limit_eq
    rw [collect_of_long net (hlimit ▸ Nat.lt_of_not_le hbytes), List.append_nil]
    exact h

/-- Sending at once changes when a frame goes, not that it does. -/
theorem Ledger.aggregateFrame (h : Ledger bulkIds primary limit arrived w.books) (bytes : Bytes)
    (micros : UInt64) :
    Ledger bulkIds primary limit (arrived ++ if bytes.length ≤ limit then [bytes] else [])
      (w.aggregateFrame net bytes micros).books := by
  -- Be it flushed at once or not, the frame has been collected by then.
  have hcollected : Ledger bulkIds primary limit
      (arrived ++ if bytes.length ≤ limit then [bytes] else [])
      (w.collect net bytes micros).books :=
    h.collect bytes micros
  rw [aggregateFrame_eq]
  by_cases hflushes : (w.collect net bytes micros).flushesAtOnce = true
  · rw [if_pos hflushes]
    exact hcollected.flush
  · rw [if_neg hflushes]
    exact hcollected

/-! ## Passing on to clients -/

/-- The recipients are clients, and the primary controller is none, whatever others did. -/
theorem Ledger.fanOut (h : Ledger bulkIds primary limit arrived w.books) (bytes : Bytes)
    (targets : Option Targets) :
    Ledger bulkIds primary limit arrived (w.fanOut net bytes targets).books := by
  have hprimary : w.state.directory.registry.primary = primary := h.primary_eq
  have hclients : primary ∉
      (w.state.directory.after (net.meanwhile w.messages)).recipients targets :=
    hprimary ▸ Directory.primary_notMem_recipients_after h.apart _ targets
  -- Client by client; looking at the directory does not touch the batches either.
  refine List.foldlRecOn (motive := fun v : Downlink =>
    Ledger bulkIds primary limit arrived v.books) _ _ ?_ fun v hv client hclient => ?_
  · exact ⟨h.bulkIds_eq, (Directory.primary_after _ _).trans hprimary,
      Directory.apart_after h.apart _, h.sized, h.limit_eq, h.batched⟩
  · exact hv.send_other (ne_of_mem_of_not_mem hclient hclients) bytes { fanoutDatagrams := 1 }

/-! ## Actions and runs -/

theorem books_noted (w : Downlink) (a : Arrival) : (w.noted a).books = w.books := by
  obtain ⟨clock, notices, streams, hnoted⟩ := noted_eq w a
  rw [hnoted]
  rfl

/-- Treating an arrival adds it to the ledger, if it is for the primary controller and within the
limit. -/
theorem Ledger.treat (h : Ledger bulkIds primary limit arrived w.books) (a : Arrival) :
    Ledger bulkIds primary limit (arrived ++ collected bulkIds limit [a])
      (w.treat net a).books := by
  have hnoted : Ledger bulkIds primary limit arrived (w.noted a).books :=
    (books_noted w a).symm ▸ h
  have hbulkIds : w.bulkIds = bulkIds := h.bulkIds_eq
  rw [treat_eq, hbulkIds]
  refine Ledger.fanOut ?_ a.bytes a.targets
  -- Either way the clients get it; only the primary controller is told apart.
  cases hkind : a.isBulk bulkIds with
  | true =>
    rw [collected_of_bulk hkind, List.append_nil]
    exact hnoted
  | false =>
    rw [collected_of_not_bulk hkind]
    exact hnoted.aggregateFrame a.bytes a.micros

/-- Meeting a deadline is a flush or nothing. -/
theorem Ledger.meetDeadline (h : Ledger bulkIds primary limit arrived w.books) (now : Nat) :
    Ledger bulkIds primary limit arrived (w.meetDeadline net now).books := by
  unfold Downlink.meetDeadline
  split
  · exact h.flush
  · exact h

theorem Ledger.addBlocked (h : Ledger bulkIds primary limit arrived w.books) (micros : UInt64) :
    Ledger bulkIds primary limit arrived
      { w with aggregate := w.aggregate.addBlocked micros }.books :=
  ⟨h.bulkIds_eq, h.primary_eq, h.apart, h.sized.addBlocked micros, h.limit_eq, h.batched⟩

/-- Each action keeps the ledger. Only treating an arrival adds to what arrived. -/
theorem Ledger.perform (h : Ledger bulkIds primary limit arrived w.books) (action : Action) :
    Ledger bulkIds primary limit (arrived ++ collected bulkIds limit action.arrival?.toList)
      (w.perform net action).books := by
  have hnothing {v : Downlink} (hv : Ledger bulkIds primary limit arrived v.books) :
      Ledger bulkIds primary limit (arrived ++ collected bulkIds limit []) v.books :=
    (List.append_nil arrived).symm ▸ hv
  cases action with
  -- These do not touch the books, so that the ledger is the same by definition.
  | begin | readGate | scan | countNoise | reportInjection | publish | finish => exact hnothing h
  | meetDeadline now => exact hnothing (h.meetDeadline now)
  | addBlocked micros => exact hnothing (h.addBlocked micros)
  | flush => exact hnothing h.flush
  | treat a => exact h.treat a

/-- Actions in a row add to the ledger what they treat, one after the other. -/
theorem Ledger.performAll (h : Ledger bulkIds primary limit arrived w.books)
    (actions : List Action) :
    Ledger bulkIds primary limit
      (arrived ++ collected bulkIds limit (actions.filterMap Action.arrival?))
      (w.performAll net actions).books := by
  -- On the actions. What has arrived by then grows with those that treat something.
  induction actions generalizing w arrived with
  | nil =>
    rw [List.filterMap_nil]
    exact (List.append_nil arrived).symm ▸ h
  | cons action rest ih =>
    rw [filterMap_arrival?_cons, collected_append, ← List.append_assoc]
    exact ih (h.perform action)

theorem ledger_start (c : Config) {state : State} (hstate : state.directory.Reachable)
    (created : Nat) :
    Ledger c.bulkTransferIds state.primary (min c.aggregateMaxPayload.toNat Aggregate.maxLimit) []
      (start c state created).books :=
  ⟨rfl, rfl, hstate.apart, Aggregate.sized_empty _, rfl, [], rfl, rfl, Aggregate.batched_nil _⟩

/-- After some iterations the ledger tells what came in with them. -/
theorem ledger_loop (c : Config) {state : State} (hstate : state.directory.Reachable)
    (created : Nat) (net : Network) (started : Nat) (iterations : List Iteration) :
    Ledger c.bulkTransferIds state.primary (min c.aggregateMaxPayload.toNat Aggregate.maxLimit)
      (collected c.bulkTransferIds (min c.aggregateMaxPayload.toNat Aggregate.maxLimit)
        (arrivals {} iterations))
      (((start c state created).perform net (.begin started)).loop net iterations).1.books := by
  have hbegun : Ledger c.bulkTransferIds state.primary
      (min c.aggregateMaxPayload.toNat Aggregate.maxLimit) []
      ((start c state created).perform net (.begin started)).books :=
    (ledger_start c hstate created).perform (.begin started)
  have hlooped : Ledger _ _ _ _ (performAll net _ (loopActions {} iterations)).books :=
    hbegun.performAll (loopActions {} iterations)
  rw [filterMap_arrival?_loopActions] at hlooped
  rw [loop_eq_performAll]
  exact hlooped

/-- A run adds to the ledger what comes in, but for what is longer than any batch. -/
theorem Ledger.run_collected (h : Ledger bulkIds primary limit arrived w.books) (now : Nat)
    (iterations : List Iteration) :
    Ledger bulkIds primary limit
      (arrived ++ collected bulkIds limit (arrivals w.scanner iterations))
      (w.run net now iterations).1.books := by
  rw [run_eq_performAll, ← filterMap_arrival?_actions w.scanner now iterations]
  exact h.performAll (actions w.scanner now iterations)

/-- If nothing is longer than a batch, the ledger tells all that is for the primary controller. -/
theorem Ledger.run (h : Ledger bulkIds primary limit arrived w.books) (now : Nat)
    {iterations : List Iteration}
    (hlength : ∀ a ∈ arrivals w.scanner iterations, a.bytes.length ≤ limit) :
    Ledger bulkIds primary limit (arrived ++ forPrimary bulkIds (arrivals w.scanner iterations))
      (w.run net now iterations).1.books := by
  rw [← collected_of_le hlength]
  exact h.run_collected now iterations

theorem frames_run (net : Network) (w : Downlink) (now : Nat) (iterations : List Iteration) :
    (w.run net now iterations).1.aggregate.frames = [] := by
  unfold run
  exact frames_flush net _

/-- The header can tell the length of whatever is taken in, so that its own limit leaves nothing
out. -/
theorem Ledger.exists_batches {limit : Nat} {arrived : List Arrival}
    (h : Ledger bulkIds primary (min limit Aggregate.maxLimit)
      (collected bulkIds (min limit Aggregate.maxLimit) arrived) w.books)
    (harrived : ∀ a ∈ arrived, a.bytes.length ≤ injectLength) :
    ∃ batches : List (List Bytes),
      batches.flatten ++ w.aggregate.frames = collected bulkIds limit arrived ∧
        Aggregate.Batched limit batches (datagramsTo primary w.sent) := by
  have hshort : ∀ a ∈ arrived, a.bytes.length ≤ Aggregate.maxLimit :=
    fun a ha => Nat.le_trans (harrived a ha) (by decide)
  obtain ⟨batches, hbatches, -, hbatched⟩ := h.batched
  exact ⟨batches, hbatches.trans (collected_min hshort), hbatched.mono (Nat.min_le_left _ _)⟩

/-- All that came in for the primary controller is in the batches that were sent, but for what is
longer than any batch. -/
theorem batches_of_run (c : Config) {state : State} (hstate : state.directory.Reachable)
    (created : Nat) (net : Network) (started : Nat) (iterations : List Iteration) :
    ∃ batches : List (List Bytes),
      batches.flatten = collected c.bulkTransferIds c.aggregateMaxPayload.toNat
          (arrivals {} iterations) ∧
        Aggregate.Batched c.aggregateMaxPayload.toNat batches
          (datagramsTo state.primary
            ((start c state created).run net started iterations).1.sent) := by
  have hledger : Ledger c.bulkTransferIds state.primary
      (min c.aggregateMaxPayload.toNat Aggregate.maxLimit)
      (collected c.bulkTransferIds (min c.aggregateMaxPayload.toNat Aggregate.maxLimit)
        (arrivals {} iterations)) ((start c state created).run net started iterations).1.books :=
    (ledger_start c hstate created).run_collected started iterations
  obtain ⟨batches, hbatches, hbatched⟩ :=
    hledger.exists_batches fun a ha => length_le_injectLength_of_mem_arrivals ha
  -- At the end of the run nothing waits, so that the batches are all there is.
  rw [frames_run, List.append_nil] at hbatches
  exact ⟨batches, hbatches, hbatched⟩

/-- **The primary controller gets everything, in order and in whole frames.** Whatever comes in, in
whatever pieces, whatever becomes of the datagrams and however the run ends: at the end nothing
waits, and the datagrams that were handed to the socket for the primary controller carry, in batches
that are numbered one after the other, all frames but those of bulk data and all that was taken in
of injected datagrams. Nothing is lost, repeated, moved or cut, and no batch is empty or too long.

The longest frame and each injected datagram have to be within the limit of a batch; an injected
datagram of up to `injectLength` bytes is taken in whole. The directory is any that can come about
while the relay runs. -/
theorem primary_gets_all_in_order (c : Config)
    (hlimit : Frame.maxLength ≤ c.aggregateMaxPayload.toNat) (state : State)
    (hstate : state.directory.Reachable) (created : Nat) (net : Network) (started : Nat)
    {iterations : List Iteration}
    (hinjected : ∀ i ∈ iterations, ∀ injection ∈ i.injections,
      (injection.bytes.take injectLength).length ≤ c.aggregateMaxPayload.toNat) :
    let w := ((start c state created).run net started iterations).1
    w.aggregate.frames = [] ∧
      ∃ batches : List (List Bytes),
        batches.flatten = forPrimary c.bulkTransferIds (arrivals {} iterations) ∧
          Aggregate.Batched c.aggregateMaxPayload.toNat batches
            (datagramsTo state.primary w.sent) := by
  intro w
  -- The limit that counts is the smaller one of the configured one and what the header can tell.
  have hmax : Frame.maxLength ≤ min c.aggregateMaxPayload.toNat Aggregate.maxLimit :=
    Nat.le_min.2 ⟨hlimit, by decide⟩
  have hlength : ∀ a ∈ arrivals {} iterations,
      a.bytes.length ≤ min c.aggregateMaxPayload.toNat Aggregate.maxLimit := by
    intro a ha
    -- The header can tell the length of any injected datagram, because of the cut.
    refine length_le_of_mem_arrivals hmax (fun i hi injection hinjection => ?_) {} ha
    have htake : (injection.bytes.take injectLength).length ≤ injectLength :=
      List.length_take_le injectLength injection.bytes
    have hinject : injectLength ≤ Aggregate.maxLimit := by decide
    exact Nat.le_min.2 ⟨hinjected i hi injection hinjection, Nat.le_trans htake hinject⟩
  have hledger : Ledger c.bulkTransferIds state.primary
      (min c.aggregateMaxPayload.toNat Aggregate.maxLimit)
      (forPrimary c.bulkTransferIds (arrivals {} iterations)) w.books :=
    (ledger_start c hstate created).run started hlength
  have hframes : w.aggregate.frames = [] := frames_run net _ started iterations
  obtain ⟨batches, harrived, -, hbatched⟩ := hledger.batched
  refine ⟨hframes, batches, ?_, hbatched.mono (Nat.min_le_left _ _)⟩
  have hwaiting : batches.flatten ++ w.aggregate.frames =
      forPrimary c.bulkTransferIds (arrivals {} iterations) := harrived
  rw [← hwaiting, hframes, List.append_nil]

/-! ## A short run -/

/-- A frame of version 1. -/
def shortFrame : Bytes := [0xFE, 1, 0, 1, 1, 0, 9, 0, 0]

/-- A signed frame of version 2. -/
def signedFrame : Bytes := [0xFD, 0, 1, 0, 1, 1, 1, 30, 0, 0, 0, 0] ++ List.replicate 13 5

/-- A network that refuses the first datagram. -/
def hesitantNetwork : Network where
  delivery n _ := if n = 0 then .failed "unreachable" 0 else .delivered
  wallMicros _ := 0

/-- Noise, a frame and the beginning of another come in, and two datagrams for injection, one of
them empty. The gate is locked when the rest of the frame comes in, and then the serial line is
closed. -/
def shortRun : List Iteration :=
  [⟨false, 0, .ready 10 (some (.received (3 :: shortFrame ++ signedFrame.take 5) 7))
      [⟨[1, 2, 3], 8⟩, ⟨[], 9⟩] none⟩,
    ⟨true, 5, .ready 0 (some (.received (signedFrame.drop 5) 9)) [] none⟩,
    ⟨true, 6, .ready 0 (some (.received [] 9)) [⟨[4], 9⟩] none⟩]

theorem primary_gets_short_run :
    Frame.maxLength ≤ ({} : Config).aggregateMaxPayload.toNat ∧
      (Directory.empty (.v4 ⟨10, 0, 0, 1⟩ 14550) 10).Reachable ∧
      (∀ i ∈ shortRun, ∀ injection ∈ i.injections,
        (injection.bytes.take injectLength).length ≤ 1024) ∧
      failure? shortRun = some (.io "serial port closed") ∧
      ∃ batches : List (List Bytes),
        batches.flatten = [shortFrame, [1, 2, 3], signedFrame] ∧
          Aggregate.Batched 1024 batches
            (datagramsTo (.v4 ⟨10, 0, 0, 1⟩ 14550)
              ((start {} (.empty (.v4 ⟨10, 0, 0, 1⟩ 14550) 10) 0).run hesitantNetwork 0
                shortRun).1.sent) := by
  have hreachable : (Directory.empty (.v4 ⟨10, 0, 0, 1⟩ 14550) 10).Reachable := ⟨_, _, [], rfl⟩
  have hinjected : ∀ i ∈ shortRun, ∀ injection ∈ i.injections,
      (injection.bytes.take injectLength).length ≤ 1024 := by decide
  have harrivals : forPrimary MessageKind.bulk (arrivals {} shortRun) =
      [shortFrame, [1, 2, 3], signedFrame] := by decide +kernel
  obtain ⟨-, batches, hbatches, hbatched⟩ := primary_gets_all_in_order {} (by decide)
    (.empty (.v4 ⟨10, 0, 0, 1⟩ 14550) 10) hreachable 0 hesitantNetwork 0 hinjected
  exact ⟨by decide, hreachable, hinjected, rfl, batches, hbatches.trans harrivals, hbatched⟩

end Downlink

end VehicleLink
