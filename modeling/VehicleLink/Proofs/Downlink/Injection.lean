import VehicleLink.Config.Validation
import VehicleLink.Proofs.Downlink.FanOut

/-!
# What becomes of an injected datagram

A datagram on the injection socket meets two limits: no more than `injectLength` bytes are taken in,
and what was taken in goes into a batch only if a batch can hold it. Neither is reported. A datagram
within both limits goes to all clients and, whole, to the primary controller
(`injected_within_limits`), and every frame is within them if the configuration is usable. Beyond
them a datagram is cut or left out (`datagrams_lost_and_cut`).
-/

namespace VehicleLink

namespace Downlink

/-- A datagram that is not empty comes in between those before and those after it. -/
theorem arrivals_of_injection {earlier : List Iteration} {i : Iteration}
    {front back : List Injection} {injection : Injection}
    (hcontinues : failure? (earlier ++ [i]) = none)
    (hplace : i.injections = front ++ injection :: back) (hbytes : injection.bytes ≠ [])
    (s : Scanner) (later : List Iteration) :
    arrivals s (earlier ++ i :: later) =
      (arrivals s earlier ++ i.read.arrivals (scannerAfter s earlier)
          ++ front.filterMap Injection.arrival?)
        ++ .injected (injection.bytes.take injectLength) injection.receivedMicros
          :: (back.filterMap Injection.arrival?
            ++ arrivals (i.read.scanner (scannerAfter s earlier)) later) := by
  -- The loop comes to the iteration, and reading from the serial line does not end it.
  rw [failure?_append] at hcontinues
  obtain ⟨hearlier, hlast⟩ := Option.or_eq_none_iff.1 hcontinues
  have hread : i.read.failure? = none := (Option.or_eq_none_iff.1 hlast).1
  have hall : i.arrivals (scannerAfter s earlier) =
      i.read.arrivals (scannerAfter s earlier) ++ i.injections.filterMap Injection.arrival? := by
    unfold Iteration.arrivals
    rw [hread]
  rw [arrivals_append hearlier, arrivals, hread, hall, hplace, List.filterMap_append,
    List.filterMap_cons, Injection.arrival?_of_ne_nil hbytes]
  simp only [List.append_assoc, List.cons_append]

/-- **An injected datagram is kept up to two limits.** Of a datagram that is not empty the first
`injectLength` bytes are taken in, between what comes in before and after it. These bytes, and no
others, are handed over once for each client that is registered by then. If a batch can hold them,
they are in the batches for the primary controller, once and in their place; if not, they are in
none. Either way nothing waits at the end. So the datagram itself gets to all clients and to the
primary controller exactly if it is within both limits, which every frame is. -/
theorem injected_within_limits (c : Config) (hvalid : c.validate = .ok c) (state : State)
    (hstate : state.directory.Reachable) (created : Nat) (net : Network) (started : Nat)
    {earlier : List Iteration} {i : Iteration} (later : List Iteration)
    {front back : List Injection} {injection : Injection}
    (hcontinues : failure? (earlier ++ [i]) = none)
    (hplace : i.injections = front ++ injection :: back) (hbytes : injection.bytes ≠ []) :
    let d := state.directory
    let s := scannerAfter {} earlier
    let before := arrivals {} earlier ++ i.read.arrivals s ++ front.filterMap Injection.arrival?
    let after := back.filterMap Injection.arrival? ++ arrivals (i.read.scanner s) later
    let taken := injection.bytes.take injectLength
    let limit := c.aggregateMaxPayload.toNat
    let w := ((start c state created).run net started (earlier ++ i :: later)).1
    passedOn state.primary w.course.sent =
      fannedOut net d 0 before
        ++ (net.directoryAt d before.length).clients.map (·, taken)
        ++ fannedOut net d (before.length + 1) after ∧
    (∃ batches : List (List Bytes),
      batches.flatten = collected c.bulkTransferIds limit before
        ++ (if taken.length ≤ limit then [taken] else [])
        ++ collected c.bulkTransferIds limit after ∧
      Aggregate.Batched limit batches (datagramsTo state.primary w.sent)) ∧
    w.aggregate.frames = [] ∧
    (taken = injection.bytes ∧ taken.length ≤ limit ↔
      injection.bytes.length ≤ min injectLength limit) ∧
    Frame.maxLength ≤ min injectLength limit := by
  intro d s before after taken limit w
  have harrivals : arrivals {} (earlier ++ i :: later) =
      before ++ .injected taken injection.receivedMicros :: after :=
    arrivals_of_injection hcontinues hplace hbytes {} later
  refine ⟨?_, ?_, frames_run net _ started _, ?_, ?_⟩
  · have hpassed := passedOn_run c hstate created net started (earlier ++ i :: later)
    rw [harrivals, fannedOut_append, fannedOut_cons, recipientsAt_injected, Nat.zero_add,
      ← List.append_assoc] at hpassed
    exact hpassed
  · obtain ⟨batches, hbatches, hbatched⟩ :=
      batches_of_run c hstate created net started (earlier ++ i :: later)
    refine ⟨batches, ?_, hbatched⟩
    -- Its own part of the batches: itself if it fits into one, and nothing else.
    have hkept : collected c.bulkTransferIds limit [.injected taken injection.receivedMicros] =
        if taken.length ≤ limit then [taken] else [] :=
      collected_of_not_bulk rfl
    rw [hbatches, harrivals, ← List.singleton_append, collected_append _ _ before,
      collected_append _ _ [_] after, hkept, List.append_assoc]
  -- It is taken in whole if it is not longer than what is taken in at most.
  · have hlength : taken.length = min injectLength injection.bytes.length := List.length_take
    constructor
    · rintro ⟨hwhole, hfits⟩
      rw [hwhole] at hlength hfits
      omega
    · intro hle
      exact ⟨List.take_of_length_le (Nat.le_trans hle (Nat.min_le_left _ _)), by omega⟩
  · exact Nat.le_min.2 ⟨by decide, Config.maxLength_le_of_validate hvalid⟩

/-- A frame comes in, and a datagram that is beyond both limits of the default configuration. -/
def longInjection : Iteration :=
  ⟨false, 0, .ready 10 (some (.received shortFrame 7)) [⟨List.replicate 2049 7, 8⟩] none⟩

theorem long_injection_cut_and_left_out :
    ({} : Config).validate = .ok {} ∧ earlyClients.Reachable ∧
      failure? ([] ++ [longInjection]) = none ∧
      longInjection.injections = [] ++ ⟨List.replicate 2049 7, 8⟩ :: [] ∧
      (List.replicate 2049 7 : Bytes) ≠ [] ∧
      passedOn (.v4 ⟨10, 0, 0, 1⟩ 14550) ((start {} { directory := earlyClients } 0).run
          partialNetwork 0 [longInjection]).1.course.sent =
        [(.v4 ⟨10, 0, 0, 2⟩ 14551, shortFrame), (.v4 ⟨10, 0, 0, 3⟩ 14551, shortFrame),
          (.v4 ⟨10, 0, 0, 2⟩ 14551, List.replicate 2048 7),
          (.v4 ⟨10, 0, 0, 3⟩ 14551, List.replicate 2048 7)] ∧
      ∃ batches : List (List Bytes), batches.flatten = [shortFrame] ∧
        Aggregate.Batched 1024 batches (datagramsTo (.v4 ⟨10, 0, 0, 1⟩ 14550)
          ((start {} { directory := earlyClients } 0).run partialNetwork 0
            [longInjection]).1.sent) := by
  have hvalid : ({} : Config).validate = .ok {} := rfl
  have hreachable : earlyClients.Reachable := ⟨_, _, _, rfl⟩
  have hcontinues : failure? ([] ++ [longInjection]) = none := rfl
  have hplace : longInjection.injections = [] ++ ⟨List.replicate 2049 7, 8⟩ :: [] := rfl
  have hbytes : (List.replicate 2049 7 : Bytes) ≠ [] := List.cons_ne_nil _ _
  obtain ⟨hpassed, ⟨batches, hbatches, hbatched⟩, -⟩ := injected_within_limits {} hvalid
    { directory := earlyClients } hreachable 0 partialNetwork 0 [] hcontinues hplace hbytes
  exact ⟨hvalid, hreachable, hcontinues, hplace, hbytes, hpassed.trans (by decide +kernel),
    batches, hbatches.trans (by decide +kernel), hbatched⟩

/-- Usable configurations, and datagrams that the network lets through: one that the primary
controller is never sent, and one of which no client is sent the last byte. -/
theorem datagrams_lost_and_cut :
    let small : Config := { aggregateMaxPayload := 280 }
    let injecting (n : Nat) : List Iteration :=
      [⟨false, 0, .ready 10 none [⟨List.replicate n 7, 8⟩] none⟩]
    let lost :=
      ((start small { directory := earlyClients } 0).run partialNetwork 0 (injecting 281)).1
    let cut := ((start {} { directory := earlyClients } 0).run partialNetwork 0 (injecting 2049)).1
    small.validate = .ok small ∧ ({} : Config).validate = .ok {} ∧
      lost.aggregate.frames = [] ∧ datagramsTo (.v4 ⟨10, 0, 0, 1⟩ 14550) lost.sent = [] ∧
      ∀ client ∈ earlyClients.clients, datagramsTo client cut.sent = [List.replicate 2048 7] :=
  ⟨rfl, rfl, by decide +kernel, by decide +kernel, by decide +kernel⟩

end Downlink

end VehicleLink
