import VehicleLink.Proofs.Downlink.Batches
import VehicleLink.Proofs.Frame.Joining

/-!
# Reading batches

The primary controller takes a batch apart with a scanner of its own. If all that was injected are
frames, then it gets back the very frames that were put together, with the same headers and judged
alike, and there is nothing else in the batch (`primary_recovers_frames`). It needs no marks between
the frames, because each tells its own length: payloads may hold marker bytes, and checksums may be
wrong.
-/

namespace VehicleLink

/-- What a reader makes of a batch: the frames that a new scanner cuts off, and the scanner
afterwards. -/
def Aggregate.readFrames (datagram : Bytes) : Except WireError (List Frame × Scanner) :=
  (decode datagram).map fun (_, payload) => (({} : Scanner).push payload).drain

namespace Downlink

/-- The frame that came in, if it is one. -/
def Arrival.frame? : Arrival → Option Frame
  | frame f _ => some f
  | injected bytes _ => Frame.ofDatagram? bytes

/-- The frames that go into batches with this limit, in order. -/
def collectedFrames (bulkIds : List UInt32) (limit : Nat) (arrivals : List Arrival) : List Frame :=
  (arrivals.filter fun a => !a.isBulk bulkIds && a.bytes.length ≤ limit).filterMap Arrival.frame?

/-- The arrival is a frame, and its bytes are the ones that came in. -/
def Arrival.IsFrame (a : Arrival) : Prop :=
  ∃ f, a.frame? = some f ∧ f.bytes = a.bytes ∧ f.Whole

theorem Arrival.isFrame_frame {f : Frame} (hf : f.Whole) (micros : UInt64) :
    (frame f micros).IsFrame :=
  ⟨f, rfl, rfl, hf⟩

/-- A datagram that is a frame is short enough to be taken in whole. -/
theorem Arrival.isFrame_injected {bytes : Bytes} {h : Frame.Header}
    (hinspect : Frame.inspect bytes = .ok h) (micros : UInt64) :
    (injected (bytes.take injectLength) micros).IsFrame := by
  have hframe := Frame.ofDatagram?_of_inspect hinspect
  obtain ⟨-, hwhole⟩ := Frame.ofDatagram?_eq_some_iff.1 hframe
  have htaken : bytes.take injectLength = bytes :=
    List.take_of_length_le (Nat.le_trans hwhole.length_le (by decide))
  rw [htaken]
  exact ⟨_, hframe, rfl, hwhole⟩

theorem isFrame_of_mem_arrivals {iterations : List Iteration}
    (hinjected : ∀ i ∈ iterations, ∀ injection ∈ i.injections,
      ∃ h, Frame.inspect injection.bytes = .ok h)
    (s : Scanner) : ∀ a ∈ arrivals s iterations, a.IsFrame := by
  refine forall_mem_arrivals (fun f micros hf => Arrival.isFrame_frame hf micros) ?_ s
  intro i hi injection hinjection
  obtain ⟨h, hinspect⟩ := hinjected i hi injection hinjection
  exact Arrival.isFrame_injected hinspect injection.receivedMicros

/-! ## Bytes and frames -/

section

variable {arrivals : List Arrival} (h : ∀ a ∈ arrivals, a.IsFrame)
include h

/-- The frames have the bytes that came in. -/
theorem map_bytes_filterMap_frame? :
    (arrivals.filterMap Arrival.frame?).map Frame.bytes = arrivals.map Arrival.bytes := by
  induction arrivals with
  | nil => rfl
  | cons a rest ih =>
    obtain ⟨f, hf, hbytes, -⟩ := h a List.mem_cons_self
    have hrest := ih fun b hb => h b (List.mem_cons_of_mem a hb)
    rw [List.filterMap_cons, hf]
    show f.bytes :: _ = a.bytes :: _
    rw [hbytes, hrest]

theorem collected_eq_map_bytes (bulkIds : List UInt32) (limit : Nat) :
    collected bulkIds limit arrivals =
      (collectedFrames bulkIds limit arrivals).map Frame.bytes := by
  unfold collected forPrimary collectedFrames
  -- Both sides take the bytes of the same arrivals; only the order of the two tests differs.
  rw [map_bytes_filterMap_frame? fun a ha => h a (List.mem_filter.1 ha).1, List.filter_map,
    List.filter_filter]
  congr 1
  refine List.filter_congr fun a _ => ?_
  exact Bool.and_comm _ _

theorem whole_of_mem_collectedFrames {bulkIds : List UInt32} {limit : Nat} {f : Frame}
    (hf : f ∈ collectedFrames bulkIds limit arrivals) : f.Whole := by
  obtain ⟨a, ha, hframe⟩ := List.mem_filterMap.1 hf
  obtain ⟨g, hg, -, hwhole⟩ := h a (List.mem_filter.1 ha).1
  rw [hg, Option.some.injEq] at hframe
  exact hframe ▸ hwhole

end

/-- Lists that make up the image of a list are the images of lists that make it up. -/
theorem exists_flatten_eq_of_map {α β : Type} {g : α → β} {parts : List (List β)} {l : List α}
    (h : parts.flatten = l.map g) :
    ∃ preimages : List (List α), preimages.flatten = l ∧ preimages.map (List.map g) = parts := by
  induction parts generalizing l with
  | nil => exact ⟨[], (List.map_eq_nil_iff.1 h.symm).symm, rfl⟩
  | cons first rest ih =>
    -- The list can be cut where the first part of its image ends.
    obtain ⟨l₁, l₂, rfl, hfirst, hrest⟩ := List.append_eq_map_iff.1 h
    obtain ⟨preimages, hflatten, hmap⟩ := ih hrest.symm
    exact ⟨l₁ :: preimages, by rw [List.flatten_cons, hflatten],
      by rw [List.map_cons, hfirst, hmap]⟩

/-- What is read from a datagram that carries whole frames is these frames. -/
theorem readFrames_of_carries {limit : Nat} {sequence : UInt32} {frames : List Frame}
    {datagram : Bytes}
    (hcarries : Aggregate.Carries limit sequence (frames.map Frame.bytes) datagram)
    (hwhole : ∀ f ∈ frames, f.Whole) :
    Aggregate.readFrames datagram = .ok (frames, {}) := by
  obtain ⟨header, hdecode, -⟩ := hcarries.decode_eq
  unfold Aggregate.readFrames
  rw [hdecode]
  exact congrArg Except.ok (Scanner.drain_flatten hwhole 0)

/-- Datagram by datagram, the reader gets back the frames of each batch. -/
theorem map_readFrames {limit : Nat} {batches : List (List Frame)} {datagrams : List Bytes}
    (hbatched : Aggregate.Batched limit (batches.map (List.map Frame.bytes)) datagrams)
    (hwhole : ∀ frames ∈ batches, ∀ f ∈ frames, f.Whole) :
    datagrams.map Aggregate.readFrames = batches.map fun frames => .ok (frames, {}) := by
  have hlength : datagrams.length = batches.length := by
    rw [hbatched.length_eq, List.length_map]
  -- There are as many datagrams as batches, so that each is compared with the one at its place.
  refine List.ext_getElem (by rw [List.length_map, List.length_map, hlength]) fun k hk _ => ?_
  have hdatagram : k < datagrams.length := List.length_map Aggregate.readFrames ▸ hk
  have hbatch : k < batches.length := hlength ▸ hdatagram
  have hframes : (batches.map (List.map Frame.bytes))[k]? = some (batches[k].map Frame.bytes) := by
    rw [List.getElem?_map, List.getElem?_eq_getElem hbatch]
    rfl
  have hcarries := hbatched.carries hframes (List.getElem?_eq_getElem hdatagram)
  rw [List.getElem_map, List.getElem_map]
  exact readFrames_of_carries hcarries (hwhole _ (List.getElem_mem hbatch))

/-- **The primary controller recovers the frames.** If each injected datagram is one whole frame,
then so is all that comes in, and each datagram for the primary controller is read as a batch. A new
scanner cuts its payload into exactly the frames of that batch, in order, drops nothing and has
nothing left; and the batches together are all frames that were collected. -/
theorem primary_recovers_frames (c : Config) (state : State) (hstate : state.directory.Reachable)
    (created : Nat) (net : Network) (started : Nat) {iterations : List Iteration}
    (hinjected : ∀ i ∈ iterations, ∀ injection ∈ i.injections,
      ∃ h, Frame.inspect injection.bytes = .ok h) :
    let arrived := arrivals {} iterations
    let w := ((start c state created).run net started iterations).1
    (∀ a ∈ arrived, a.IsFrame) ∧
      ∃ batches : List (List Frame),
        batches.flatten =
            collectedFrames c.bulkTransferIds c.aggregateMaxPayload.toNat arrived ∧
          (datagramsTo state.primary w.sent).map Aggregate.readFrames =
            batches.map fun frames => .ok (frames, {}) := by
  intro arrived w
  have hframes : ∀ a ∈ arrived, a.IsFrame := isFrame_of_mem_arrivals hinjected {}
  refine ⟨hframes, ?_⟩
  -- The batches are known as lists of bytes. These are cut from the frames in the same places.
  obtain ⟨parts, hparts, hbatched⟩ := batches_of_run c hstate created net started iterations
  rw [collected_eq_map_bytes hframes] at hparts
  obtain ⟨batches, hflatten, rfl⟩ := exists_flatten_eq_of_map hparts
  refine ⟨batches, hflatten, map_readFrames hbatched fun frames hbatch f hf => ?_⟩
  have hmem : f ∈ batches.flatten := List.mem_flatten.2 ⟨frames, hbatch, hf⟩
  exact whole_of_mem_collectedFrames hframes (hflatten ▸ hmem)

/-! ## A run with hard frames -/

/-- A frame whose payload reads like the beginnings of frames, with a wrong checksum. -/
def markedFrame : Bytes := [0xFE, 3, 0, 1, 1, 0, 0xFD, 0xFE, 0xFD, 0, 0]

/-- Frames of both versions come in on both ways. -/
def framedRun : List Iteration :=
  [⟨false, 0, .ready 10 (some (.received (markedFrame ++ signedFrame) 7))
    [⟨shortFrame, 8⟩, ⟨markedFrame, 9⟩] none⟩]

theorem framed_run_recovered :
    (Directory.empty (.v4 ⟨10, 0, 0, 1⟩ 14550) 10).Reachable ∧
      (∀ i ∈ framedRun, ∀ injection ∈ i.injections,
        ∃ h, Frame.inspect injection.bytes = .ok h) ∧
      ∃ batches : List (List Frame),
        batches.flatten.map Frame.bytes = [markedFrame, signedFrame, shortFrame, markedFrame] ∧
        (datagramsTo (.v4 ⟨10, 0, 0, 1⟩ 14550)
          ((start {} (.empty (.v4 ⟨10, 0, 0, 1⟩ 14550) 10) 0).run hesitantNetwork 0
            framedRun).1.sent).map Aggregate.readFrames =
          batches.map fun frames => .ok (frames, {}) := by
  have hreachable : (Directory.empty (.v4 ⟨10, 0, 0, 1⟩ 14550) 10).Reachable := ⟨_, _, [], rfl⟩
  have hinjected : ∀ i ∈ framedRun, ∀ injection ∈ i.injections,
      ∃ h, Frame.inspect injection.bytes = .ok h := by
    intro i hi injection hinjection
    rw [List.mem_singleton.1 hi] at hinjection
    rcases List.mem_cons.1 hinjection with rfl | hsecond
    · exact ⟨_, rfl⟩
    · rw [List.mem_singleton.1 hsecond]
      exact ⟨_, rfl⟩
  obtain ⟨-, batches, hbatches, hread⟩ := primary_recovers_frames {}
    (.empty (.v4 ⟨10, 0, 0, 1⟩ 14550) 10) hreachable 0 hesitantNetwork 0 hinjected
  refine ⟨hreachable, hinjected, batches, ?_, hread⟩
  rw [hbatches]
  decide +kernel

end Downlink

end VehicleLink
