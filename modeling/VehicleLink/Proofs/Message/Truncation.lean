import Mathlib.Data.List.Forall2
import VehicleLink.Proofs.Downlink.Clock
import VehicleLink.Proofs.Frame.Encoding
import VehicleLink.Proofs.Uplink.ArmGate
import VehicleLink.Proofs.Uplink.Traces

/-!
# Zeros that are cut off change no decision

A sender may leave out the zeros at the end of a payload, and it may as well send them. So one
message has many forms (`Frame.SameMessage`), of different lengths and with different checksums. The
relay decides on a message in three places: whom it concerns, whether it asks to arm, and which time
it tells. None of them sees a difference between two forms of a message, and so two workers that are
alike, one of which gets the one form and one the other, decide the same and are alike afterwards.
What they do differ in is what depends on the number of bytes: whether there is room on the line,
and which batch a frame goes into.
-/

namespace VehicleLink

/-- The bytes differ at most in how many zeros stand at their end. -/
def SameButZeros (p q : Bytes) : Prop := ∃ j k, p ++ List.replicate j 0 = q ++ List.replicate k 0

/-- What sees no zeros at the end makes no difference between such bytes. -/
theorem SameButZeros.congr {p q : Bytes} (h : SameButZeros p q) {α : Type} {read : Bytes → α}
    (hread : ∀ payload k, read (payload ++ List.replicate k 0) = read payload) :
    read p = read q := by
  obtain ⟨j, k, hzeros⟩ := h
  rw [← hread p j, hzeros, hread q k]

/-! ## Reading a message -/

namespace Message

open LittleEndian

/-- The number of payload bytes that are looked at in a message of this kind. -/
def layoutLength (messageId : UInt32) : Nat :=
  if messageId = MessageKind.systemTime then 12
  else if messageId = MessageKind.commandLong then 33
  else if messageId = MessageKind.commandInt then 35
  else 0

theorem paramsAt_take {offset count n : Nat} (h : offset + 4 * count ≤ n) (payload : Bytes) :
    paramsAt (payload.take n) offset count = paramsAt payload offset count := by
  refine List.map_congr_left fun i hi => ?_
  have hfits : offset + 4 * i + 4 ≤ n := by
    have hlt := List.mem_range.1 hi
    omega
  rw [fieldAt_take hfits]

/-- Bytes behind the layout of a message are ignored. -/
theorem decode?_take {messageId : UInt32} {n : Nat} (h : layoutLength messageId ≤ n)
    (payload : Bytes) : decode? messageId (payload.take n) = decode? messageId payload := by
  unfold layoutLength at h
  unfold decode?
  split at h
  -- The same three tests decide how long the layout is and how the message is read, so that one
  -- split serves both.
  · rename_i hkind
    have hread : readSystemTime (payload.take n) = readSystemTime payload := by
      simp (disch := omega) only [readSystemTime, fieldAt_take]
    rw [if_pos hkind, if_pos hkind, hread]
  · rename_i hother
    rw [if_neg hother, if_neg hother]
    split at h
    · rename_i hkind
      have hread : readCommandLong? (payload.take n) = readCommandLong? payload := by
        simp (disch := omega) only [readCommandLong?, fieldAt_take, byteAt_take, paramsAt_take]
      rw [if_pos hkind, if_pos hkind, hread]
    · rename_i hother
      rw [if_neg hother, if_neg hother]
      split at h
      · rename_i hkind
        have hread : readCommandInt? (payload.take n) = readCommandInt? payload := by
          simp (disch := omega) only [readCommandInt?, fieldAt_take, byteAt_take, paramsAt_take]
        rw [if_pos hkind, if_pos hkind, hread]
      · rename_i hother
        rw [if_neg hother, if_neg hother]

/-- A payload is read as if it were as long as the layout of its message: zeros stand for what is
missing, and what is beyond is ignored. -/
theorem decode?_layout (messageId : UInt32) (payload : Bytes) :
    decode? messageId ((payload ++ List.replicate (layoutLength messageId) 0).take
      (layoutLength messageId)) = decode? messageId payload := by
  -- Neither the zeros put behind nor the bytes that are cut off are seen.
  rw [decode?_take (Nat.le_refl _), decode?_append_zeros]

end Message

/-! ## Two forms of a message -/

/-- The frames are two forms of one message: they agree but for how many zeros stand at the end of
the payload, which the header tells. Where the checksum is the right one, it is another one. -/
structure Frame.SameMessage (f g : Frame) : Prop where
  header_eq : g.header = { f.header with payloadLength := g.header.payloadLength }
  payload_eq : SameButZeros f.payload g.payload

namespace Frame.SameMessage

variable {f g : Frame} (h : f.SameMessage g)
include h

theorem messageId_eq : f.header.messageId = g.header.messageId := by
  rw [h.header_eq]

theorem system_eq : f.header.system = g.header.system := by
  rw [h.header_eq]

theorem component_eq : f.header.component = g.header.component := by
  rw [h.header_eq]

/-- The two forms are for the same. -/
theorem targets_eq :
    Targets.ofPayload? f.header.messageId f.payload =
      Targets.ofPayload? g.header.messageId g.payload := by
  rw [h.messageId_eq]
  exact h.payload_eq.congr (Targets.ofPayload?_append_zeros _)

theorem isArmRequest_eq :
    Message.isArmRequest f.header.messageId f.payload =
      Message.isArmRequest g.header.messageId g.payload := by
  rw [h.messageId_eq]
  exact h.payload_eq.congr (Message.isArmRequest_append_zeros _)

/-- If both checksums are right, or both wrong, the two forms tell the same time to rely on. -/
theorem trustedTime?_eq (hchecksum : f.checksumOk = g.checksumOk) :
    f.trustedTime? = g.trustedTime? := by
  rw [Frame.trustedTime?_eq, Frame.trustedTime?_eq, hchecksum, h.messageId_eq,
    h.payload_eq.congr (Message.vehicleTime?_append_zeros _)]

end Frame.SameMessage

/-! ## From the network to the vehicle -/

namespace Uplink

/-- The gate makes no difference between two forms of a message. -/
theorem blocks_eq {f g : Frame} (h : f.SameMessage g) {v w : Uplink}
    (hgate : v.rcLocked = w.rcLocked) :
    v.blocks f.header f.bytes = w.blocks g.header g.bytes := by
  have harm : Message.isArmRequest f.header.messageId (f.header.payload f.bytes) =
      Message.isArmRequest g.header.messageId (g.header.payload g.bytes) := h.isArmRequest_eq
  rw [blocks, blocks, hgate, harm]

variable {w : Uplink} {datagram : Bytes} {header : Frame.Header}

/-- A frame is held back exactly if the gate blocks it. -/
theorem outcome_eq_armBlocked_iff (hinspect : Frame.inspect datagram = .ok header)
    (sender : SocketAddress) (now : Nat) (reply : LineReply) :
    (w.handle datagram sender now reply).outcome = .armBlocked ↔
      w.blocks header datagram = true := by
  cases hblocks : w.blocks header datagram with
  | true => rw [handle_of_blocked hinspect hblocks]; simp
  | false =>
    rw [handle_of_passed hinspect hblocks]
    exact iff_of_false (forward_ne_armBlocked _ datagram reply) Bool.false_ne_true

/-- What is reported for a frame depends on the clients and on the gate, not on the line. -/
theorem notices_handle (hinspect : Frame.inspect datagram = .ok header) (sender : SocketAddress)
    (now : Nat) (reply : LineReply) :
    (w.handle datagram sender now reply).notices =
      w.state.directory.registry.registerNotices sender ++
        if w.blocks header datagram then
          [.armRequestDropped sender header.system header.component] else [] := by
  cases hblocks : w.blocks header datagram with
  | true =>
    rw [handle_of_blocked hinspect hblocks]
    rfl
  | false =>
    -- Passing on reports nothing, whatever it comes to.
    have hsilent : ((w.learn sender header now).forward datagram reply).notices = [] := by
      rcases (w.learn sender header now).forward_cases datagram reply with
        ⟨_, _, -, -, heq⟩ | ⟨_, _, -, heq⟩ <;> rw [heq]
    rw [handle_of_passed hinspect hblocks]
    exact congrArg (_ ++ ·) hsilent

/-- Two workers with the same directory and the same gate treat two forms of a message alike,
whatever their lines answer. -/
theorem handle_same_message {f g : Frame} (h : f.SameMessage g) (hf : f.Whole) (hg : g.Whole)
    {v w : Uplink} (hgate : v.rcLocked = w.rcLocked)
    (hdirectory : v.state.directory = w.state.directory) (sender : SocketAddress) (now : Nat)
    (reply other : LineReply) :
    let a := v.handle f.bytes sender now reply
    let b := w.handle g.bytes sender now other
    (a.outcome = .armBlocked ↔ b.outcome = .armBlocked) ∧
      (a.outcome = .armBlocked → a.serial = [] ∧ b.serial = []) ∧ a.notices = b.notices ∧
      a.worker.rcLocked = b.worker.rcLocked ∧
      a.worker.state.directory = b.worker.state.directory := by
  intro a b
  have hblocks := blocks_eq h hgate
  refine ⟨?_, fun hblocked => ?_, ?_, ?_, ?_⟩
  · rw [outcome_eq_armBlocked_iff hf.inspect_eq, outcome_eq_armBlocked_iff hg.inspect_eq, hblocks]
  -- What is held back does not reach the line, whatever that would have answered.
  · have hv := (outcome_eq_armBlocked_iff hf.inspect_eq sender now reply).1 hblocked
    have hw := hblocks ▸ hv
    exact ⟨congrArg Handled.serial (handle_of_blocked hf.inspect_eq hv),
      congrArg Handled.serial (handle_of_blocked hg.inspect_eq hw)⟩
  · rw [notices_handle hf.inspect_eq, notices_handle hg.inspect_eq, hblocks, hdirectory,
      h.system_eq, h.component_eq]
  · rw [rcLocked_handle, rcLocked_handle, hgate]
  · rw [directory_handle hf.inspect_eq, directory_handle hg.inspect_eq, hdirectory, h.system_eq,
      h.component_eq]

end Uplink

/-! ## From the vehicle to the network -/

namespace Downlink

/-- The same came in, but for the form of a message and the time at which it came. -/
inductive Arrival.SameMessage : Arrival → Arrival → Prop where
  | frame {f g : Frame} (message : f.SameMessage g) (checksum : f.checksumOk = g.checksumOk)
      (micros micros' : UInt64) : SameMessage (.frame f micros) (.frame g micros')
  | injected (bytes : Bytes) (micros micros' : UInt64) :
      SameMessage (.injected bytes micros) (.injected bytes micros')

theorem Arrival.SameMessage.targets_eq {a b : Arrival} (h : a.SameMessage b) :
    a.targets = b.targets := by
  cases h with
  | frame message checksum micros micros' => exact message.targets_eq
  | injected bytes micros micros' => rfl

theorem Arrival.SameMessage.trustedTime?_eq {a b : Arrival} (h : a.SameMessage b) :
    a.trustedTime? = b.trustedTime? := by
  cases h with
  | frame message checksum micros micros' => exact message.trustedTime?_eq checksum
  | injected bytes micros micros' => rfl

/-- What two workers have in common that differ only in the forms of the messages they got. -/
structure Agree (v w : Downlink) : Prop where
  directory_eq : v.state.directory = w.state.directory
  messages_eq : v.messages = w.messages
  timing_eq : v.timing = w.timing

variable {net other : Network}

/-- Two workers that agree pass two forms of a message on to the same clients, and agree
afterwards. -/
theorem Agree.treat (hnet : net.meanwhile = other.meanwhile) {v w : Downlink} (h : v.Agree w)
    (hapart : v.state.directory.registry.Apart) {a b : Arrival} (hsame : a.SameMessage b) :
    (v.treat net a).Agree (w.treat other b) ∧
      ∃ clients : List SocketAddress,
        (v.treat net a).trail.passedOn = v.trail.passedOn ++ clients.map (·, a.bytes) ∧
        (w.treat other b).trail.passedOn = w.trail.passedOn ++ clients.map (·, b.bytes) := by
  have hv : (v.treat net a).trail = v.trail.add net a := trail_treat hapart a
  have hw : (w.treat other b).trail = w.trail.add other b := trail_treat (h.directory_eq ▸ hapart) b
  -- The recipients are looked up after what others do meanwhile, which is the same for both
  -- workers.
  have hdirectory : (v.trail.add net a).directory = (w.trail.add other b).directory := by
    show v.state.directory.after (net.meanwhile v.messages) =
      w.state.directory.after (other.meanwhile w.messages)
    rw [h.directory_eq, h.messages_eq, hnet]
  constructor
  · refine ⟨?_, ?_, ?_⟩
    · exact (congrArg Trail.directory hv).trans
        (hdirectory.trans (congrArg Trail.directory hw).symm)
    · have hmessages : v.messages + 1 = w.messages + 1 := congrArg (· + 1) h.messages_eq
      exact (congrArg Trail.messages hv).trans (hmessages.trans (congrArg Trail.messages hw).symm)
    · rw [timing_treat, timing_treat, h.timing_eq, hsame.trustedTime?_eq]
  · refine ⟨(v.trail.add net a).directory.recipients a.targets, congrArg Trail.passedOn hv, ?_⟩
    rw [hw, hdirectory, hsame.targets_eq]
    rfl

/-- Message by message, two runs find the same clients. -/
theorem targets_fannedOut (hnet : net.meanwhile = other.meanwhile) (d : Directory)
    {arrived arrived' : List Arrival} (h : List.Forall₂ Arrival.SameMessage arrived arrived')
    (n : Nat) :
    (fannedOut net d n arrived).map Prod.fst = (fannedOut other d n arrived').map Prod.fst := by
  induction h generalizing n with
  | nil => rfl
  | @cons a b _ _ hfirst _ ih =>
    -- The datagrams differ in their bytes, so that only the addresses are compared.
    have hrecipients : recipientsAt net d n a = recipientsAt other d n b := by
      unfold recipientsAt Network.directoryAt
      rw [hnet, hfirst.targets_eq]
    have hfst (clients : List SocketAddress) (bytes : Bytes) :
        (clients.map (·, bytes)).map Prod.fst = clients := by
      rw [List.map_map]
      exact List.map_id _
    rw [fannedOut_cons, fannedOut_cons, List.map_append, List.map_append, hfst, hfst,
      hrecipients, ih]

/-- Two runs hear the same times. -/
theorem trustedTimes_eq {arrived arrived' : List Arrival}
    (h : List.Forall₂ Arrival.SameMessage arrived arrived') :
    arrived.map Arrival.trustedTime? = arrived'.map Arrival.trustedTime? := by
  induction h with
  | nil => rfl
  | cons hfirst _ ih => rw [List.map_cons, List.map_cons, hfirst.trustedTime?_eq, ih]

/-- What a run keeps and announces depends on the times alone that are told in it. -/
theorem timing_run (c : Config) (state : State) (created : Nat) (net : Network) (started : Nat)
    (iterations : List Iteration) :
    ((start c state created).run net started iterations).1.timing =
      ((arrivals {} iterations).map Arrival.trustedTime?).foldl Timing.hear
        { syncedAt := none, announced := [] } := by
  have hstart : (start c state created).timing = { syncedAt := none, announced := [] } := rfl
  rw [run_eq_performAll, timing_performAll, filterMap_arrival?_actions, hstart]
  rfl

end Downlink

/-! ## The theorem -/

/-- **Zeros that are cut off from a payload change no decision.** Whatever the header and the
payload: a message is read as if its payload had the length of its layout, with zeros for what is
missing and without what is beyond; and whom it is for, whether it asks to arm and which time it
tells is the same with any number of zeros at the end. So in every state of the relay two forms of a
frame are treated alike. From the network: whatever the line answers, one is held back by the gate
exactly if the other is, nothing is done to the line then, the same is reported, and the directory
is the same afterwards. From the vehicle: both go to the same clients, and the workers keep agreeing
on the directory and the vehicle's time, whatever becomes of the datagrams. Two runs in which the
same messages come in, each in any form, hand over datagrams for the same clients in the same order
and keep and announce the same time. -/
theorem truncation_changes_no_decision :
    (∀ (h : Frame.Header) (payload : Bytes) (k : Nat),
      let length := Message.layoutLength h.messageId
      let longer := payload ++ List.replicate k 0
      Message.decode? h.messageId ((payload ++ List.replicate length 0).take length) =
        Message.decode? h.messageId payload ∧
      Targets.ofPayload? h.messageId longer = Targets.ofPayload? h.messageId payload ∧
      Message.isArmRequest h.messageId longer = Message.isArmRequest h.messageId payload ∧
      Message.vehicleTime? h.messageId longer = Message.vehicleTime? h.messageId payload) ∧
    (∀ f g : Frame, f.SameMessage g → f.Whole → g.Whole → ∀ v w : Uplink, v.rcLocked = w.rcLocked →
      v.state.directory = w.state.directory → ∀ sender now reply other,
        let a := v.handle f.bytes sender now reply
        let b := w.handle g.bytes sender now other
        (a.outcome = .armBlocked ↔ b.outcome = .armBlocked) ∧
          (a.outcome = .armBlocked → a.serial = [] ∧ b.serial = []) ∧ a.notices = b.notices ∧
          a.worker.rcLocked = b.worker.rcLocked ∧
          a.worker.state.directory = b.worker.state.directory) ∧
    (∀ net other : Network, net.meanwhile = other.meanwhile →
      ∀ (v w : Downlink), v.Agree w → v.state.directory.registry.Apart →
      ∀ a b : Downlink.Arrival, a.SameMessage b →
        (v.treat net a).Agree (w.treat other b) ∧
          ∃ clients : List SocketAddress,
            (v.treat net a).trail.passedOn = v.trail.passedOn ++ clients.map (·, a.bytes) ∧
            (w.treat other b).trail.passedOn = w.trail.passedOn ++ clients.map (·, b.bytes)) ∧
    ∀ net other : Network, net.meanwhile = other.meanwhile →
      ∀ (c : Config) (state : State), state.directory.Reachable →
      ∀ created created' started started' iterations iterations',
        List.Forall₂ Downlink.Arrival.SameMessage (Downlink.arrivals {} iterations)
          (Downlink.arrivals {} iterations') →
        let ran := ((Downlink.start c state created).run net started iterations).1
        let ran' := ((Downlink.start c state created').run other started' iterations').1
        (Downlink.passedOn state.primary ran.course.sent).map Prod.fst =
            (Downlink.passedOn state.primary ran'.course.sent).map Prod.fst ∧
          ran.timing = ran'.timing := by
  refine ⟨fun h payload k => ⟨?_, ?_, ?_, ?_⟩, ?_, ?_, ?_⟩
  · exact Message.decode?_layout h.messageId payload
  · exact Targets.ofPayload?_append_zeros h.messageId payload k
  · exact Message.isArmRequest_append_zeros h.messageId payload k
  · exact Message.vehicleTime?_append_zeros h.messageId payload k
  · intro f g hsame hf hg v w hgate hdirectory sender now reply other
    exact Uplink.handle_same_message hsame hf hg hgate hdirectory sender now reply other
  · intro net other hnet v w hagree hapart a b hsame
    exact hagree.treat hnet hapart hsame
  · intro net other hnet c state hstate created created' started started' iterations
      iterations' hsame
    constructor
    · rw [Downlink.passedOn_run c hstate, Downlink.passedOn_run c hstate]
      exact Downlink.targets_fannedOut hnet state.directory hsame 0
    · rw [Downlink.timing_run, Downlink.timing_run, Downlink.trustedTimes_eq hsame]

/-- A message with so many zeros behind its payload. -/
def paddedEntry (messageId : UInt32) (payload : Bytes) (zeros : Nat) : Frame.Entry :=
  ⟨[], 0, 1, 1, messageId, payload ++ List.replicate zeros 0⟩

/-- A request to arm, up to the last byte that is not zero. -/
def armingStart : Bytes := [0x00, 0x00, 0x80, 0x3F] ++ List.replicate 24 0 ++ [0x90, 0x01]

/-- The time five comes in, with so many zeros behind it. -/
def timeRun (zeros : Nat) : List Downlink.Iteration :=
  [⟨false, 0, .ready 10 (some (.received (paddedEntry 2 [5] zeros).datagram 7)) [] none⟩]

/-- Both forms of a request to arm are held back and go to the same clients, and both forms of a
time tell it, although the shorter one ends in the middle of the number. -/
theorem padded_forms_treated_alike :
    let f := (paddedEntry 76 armingStart 0).frame
    let g := (paddedEntry 76 armingStart 3).frame
    let sender : SocketAddress := .v4 ⟨10, 0, 0, 2⟩ 14550
    let w := Downlink.start {} { directory := Downlink.earlyClients } 0
    let ran (zeros : Nat) := (w.run Downlink.hesitantNetwork 0 (timeRun zeros)).1
    f.SameMessage g ∧ f.Whole ∧ g.Whole ∧ f.bytes.length = 42 ∧ g.bytes.length = 45 ∧
      (Uplink.lockedWorker.handle f.bytes sender 0 { polls := [] }).outcome = .armBlocked ∧
      (Uplink.lockedWorker.handle g.bytes sender 0 { polls := [] }).outcome = .armBlocked ∧
      Downlink.earlyClients.Reachable ∧
      (w.treat Downlink.hesitantNetwork (.frame f 7)).Agree
        (w.treat Downlink.hesitantNetwork (.frame g 8)) ∧
      List.Forall₂ Downlink.Arrival.SameMessage (Downlink.arrivals {} (timeRun 0))
        (Downlink.arrivals {} (timeRun 11)) ∧
      (ran 0).timing = ⟨some 5, [5]⟩ ∧ (ran 11).timing = ⟨some 5, [5]⟩ := by
  intro f g sender w ran
  obtain ⟨-, hgate, hworkers, hruns⟩ := truncation_changes_no_decision
  -- The shorter form lacks three zeros.
  have hsame : f.SameMessage g := ⟨rfl, 3, 0, by decide +kernel⟩
  have hf : f.Whole := (paddedEntry 76 armingStart 0).whole_frame
  have hg : g.Whole := (paddedEntry 76 armingStart 3).whole_frame
  have hblocked : (Uplink.lockedWorker.handle f.bytes sender 0 { polls := [] }).outcome =
      .armBlocked := by decide +kernel
  obtain ⟨hverdict, -⟩ :=
    hgate f g hsame hf hg Uplink.lockedWorker Uplink.lockedWorker rfl rfl sender 0
      { polls := [] } { polls := [] }
  have hreachable : Downlink.earlyClients.Reachable := ⟨_, _, _, rfl⟩
  obtain ⟨hagree, -⟩ := hworkers Downlink.hesitantNetwork Downlink.hesitantNetwork rfl w w
    ⟨rfl, rfl, rfl⟩ hreachable.apart _ _ (.frame hsame (by decide +kernel) 7 8)
  have harrivals (zeros : Nat) (h : zeros = 0 ∨ zeros = 11) :
      Downlink.arrivals {} (timeRun zeros) = [.frame (paddedEntry 2 [5] zeros).frame 7] := by
    rcases h with rfl | rfl <;> decide +kernel
  have hforms : List.Forall₂ Downlink.Arrival.SameMessage (Downlink.arrivals {} (timeRun 0))
      (Downlink.arrivals {} (timeRun 11)) := by
    rw [harrivals 0 (Or.inl rfl), harrivals 11 (Or.inr rfl)]
    have htime : (paddedEntry 2 [5] 0).frame.SameMessage (paddedEntry 2 [5] 11).frame :=
      ⟨rfl, 11, 0, by decide +kernel⟩
    exact .cons (.frame htime (by decide +kernel) 7 7) .nil
  obtain ⟨-, htiming⟩ := hruns Downlink.hesitantNetwork Downlink.hesitantNetwork rfl {}
    { directory := Downlink.earlyClients } hreachable 0 0 0 0 (timeRun 0) (timeRun 11) hforms
  have hshort : (ran 0).timing = ⟨some 5, [5]⟩ := by decide +kernel
  exact ⟨hsame, hf, hg, by decide +kernel, by decide +kernel, hblocked, hverdict.1 hblocked,
    hreachable, hagree, hforms, hshort, htiming.symm.trans hshort⟩

end VehicleLink
