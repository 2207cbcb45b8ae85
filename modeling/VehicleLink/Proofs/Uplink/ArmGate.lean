import VehicleLink.Proofs.Uplink.Handling

/-!
# What the locked gate holds back

A command asks to arm if two fields of its payload say so (`Message.SpellsArming`). The gate decides
on the whole message, and a message that cannot be read is passed on. A command with free parameters
that spells arming can always be read, whatever stands in its other bytes; one with a position can
be read only if its frame of reference is a known one. The main statement,
`locked_gate_blocks_readable`, is that the locked gate holds back exactly the readable ones: an
unreadable one is treated as if the gate were open (`arming_passes_locked_gate`).
-/

namespace VehicleLink

open LittleEndian

namespace Message

/-- The payload of a command says that the motors be armed: the command is the one that arms or
disarms, and the first parameter is one. -/
def SpellsArming (payload : Bytes) : Prop :=
  fieldAt payload 28 2 = 400 ∧ UInt32.ofNat (fieldAt payload 0 4) = SingleBits.one

instance (payload : Bytes) : Decidable (SpellsArming payload) :=
  inferInstanceAs (Decidable (_ ∧ _))

/-- A command that spells arming can be read. -/
def ArmingReadable (messageId : UInt32) (payload : Bytes) : Prop :=
  messageId = MessageKind.commandLong ∨ byteAt payload 32 ≤ maxReferenceFrame

instance (messageId : UInt32) (payload : Bytes) : Decidable (ArmingReadable messageId payload) :=
  inferInstanceAs (Decidable (_ ∨ _))

variable {messageId : UInt32} {payload : Bytes}

theorem head?_paramsAt (payload : Bytes) (offset count : Nat) :
    (paramsAt payload offset (count + 1)).head? =
      some (UInt32.ofNat (fieldAt payload offset 4)) := by
  unfold paramsAt
  rw [List.range_succ_eq_map]
  rfl

/-- Of a message that spells arming, the command and the first parameter are the ones looked for. -/
theorem asksToArm_paramsAt (h : SpellsArming payload) (count : Nat) :
    asksToArm (UInt16.ofNat (fieldAt payload 28 2)) (paramsAt payload 0 (count + 1)) = true := by
  unfold asksToArm
  rw [head?_paramsAt, h.1, h.2]
  decide

theorem isKnown_of_spellsArming (h : SpellsArming payload) :
    KnownCommand.isKnown (UInt16.ofNat (fieldAt payload 28 2)) = true := by
  rw [h.1]
  decide

/-- A command with free parameters that spells arming is always recognized. -/
theorem isArmRequest_commandLong (h : SpellsArming payload) :
    isArmRequest MessageKind.commandLong payload = true := by
  have hread : decode? MessageKind.commandLong payload =
      (readCommandLong? payload).map .commandLong := rfl
  unfold isArmRequest
  -- Nothing but the command could keep it from being read.
  rw [hread, readCommandLong?, if_pos (isKnown_of_spellsArming h)]
  exact asksToArm_paramsAt h 6

/-- A position command that spells arming is recognized only if its frame of reference is known. -/
theorem isArmRequest_commandInt (h : SpellsArming payload) :
    isArmRequest MessageKind.commandInt payload =
      decide (byteAt payload 32 ≤ maxReferenceFrame) := by
  have hread : decode? MessageKind.commandInt payload =
      (readCommandInt? payload).map .commandInt := rfl
  unfold isArmRequest
  -- The command is a known one, so that the frame of reference alone decides.
  rw [hread, readCommandInt?, isKnown_of_spellsArming h, Bool.true_and]
  by_cases hframe : byteAt payload 32 ≤ maxReferenceFrame
  · rw [decide_eq_true hframe, if_pos rfl]
    exact asksToArm_paramsAt h 3
  · rw [decide_eq_false hframe, if_neg Bool.false_ne_true]
    rfl

/-- A command that spells arming is recognized exactly if it can be read. -/
theorem isArmRequest_eq_readable
    (hkind : messageId = MessageKind.commandLong ∨ messageId = MessageKind.commandInt)
    (h : SpellsArming payload) :
    isArmRequest messageId payload = decide (ArmingReadable messageId payload) := by
  rcases hkind with rfl | rfl
  · have hreadable : ArmingReadable MessageKind.commandLong payload := Or.inl rfl
    rw [isArmRequest_commandLong h, decide_eq_true hreadable]
  · have hreadable : ArmingReadable MessageKind.commandInt payload ↔
        byteAt payload 32 ≤ maxReferenceFrame :=
      or_iff_right (by decide)
    -- It is not the command with free parameters, so that only the other alternative is left.
    rw [isArmRequest_commandInt h, decide_eq_decide.2 hreadable]

end Message

namespace Uplink

variable {w : Uplink} {datagram : Bytes} {header : Frame.Header}

/-- Passing a datagram on does not depend on the gate. -/
theorem forward_refreshGate (w : Uplink) (locked : Bool) (datagram : Bytes) (reply : LineReply) :
    (w.refreshGate locked).forward datagram reply =
      { w.forward datagram reply with
        worker := (w.forward datagram reply).worker.refreshGate locked } := by
  have hwait : (w.refreshGate locked).backpressure = w.backpressure := rfl
  unfold forward
  rw [hwait]
  -- Neither what the line says nor what is written knows of the gate.
  obtain ⟨wait, readings⟩ := w.backpressure.wait datagram.length reply.polls
  cases wait with
  | pending | failed reason | stalled waited queued => rfl
  | ready waited =>
    cases reply.writeFailure with
    | some reason => rfl
    | none => rfl

/-- A frame that is not held back is treated as if the gate were open. -/
theorem handle_eq_unlocked (hinspect : Frame.inspect datagram = .ok header)
    (hpasses : w.blocks header datagram = false) (sender : SocketAddress) (now : Nat)
    (reply : LineReply) :
    (w.handle datagram sender now reply).outcome ≠ .armBlocked ∧
      (w.handle datagram sender now reply).outcome =
        ((w.refreshGate false).handle datagram sender now reply).outcome ∧
      (w.handle datagram sender now reply).serial =
        ((w.refreshGate false).handle datagram sender now reply).serial := by
  have hopen : (w.refreshGate false).blocks header datagram = false := rfl
  rw [handle_of_passed hinspect hpasses, handle_of_passed hinspect hopen]
  -- Learning and reading the gate concern different parts of the worker, so their order is free.
  have hforward : ((w.refreshGate false).learn sender header now).forward datagram reply = _ :=
    forward_refreshGate (w.learn sender header now) false datagram reply
  rw [hforward]
  exact ⟨forward_ne_armBlocked _ datagram reply, rfl, rfl⟩

/-- **The locked gate holds back what spells arming, if it can be read.** Of the commands that spell
arming, in any frame and with anything in their other bytes, those that can be read are dropped and
nothing is done to the serial line; those that cannot be read are never dropped, and what becomes of
them and what is done to the line is the same as with an open gate. -/
theorem locked_gate_blocks_readable (hlocked : w.rcLocked = true)
    (hinspect : Frame.inspect datagram = .ok header)
    (hkind : header.messageId = MessageKind.commandLong ∨ header.messageId = MessageKind.commandInt)
    (hspells : Message.SpellsArming (header.payload datagram)) (sender : SocketAddress) (now : Nat)
    (reply : LineReply) :
    (Message.ArmingReadable header.messageId (header.payload datagram) →
      (w.handle datagram sender now reply).outcome = .armBlocked ∧
        (w.handle datagram sender now reply).serial = []) ∧
    (¬ Message.ArmingReadable header.messageId (header.payload datagram) →
      (w.handle datagram sender now reply).outcome ≠ .armBlocked ∧
        (w.handle datagram sender now reply).outcome =
          ((w.refreshGate false).handle datagram sender now reply).outcome ∧
        (w.handle datagram sender now reply).serial =
          ((w.refreshGate false).handle datagram sender now reply).serial) := by
  -- Of the two conditions of the gate, being locked is given, so that recognizing the request
  -- decides.
  have hblocks : w.blocks header datagram =
      decide (Message.ArmingReadable header.messageId (header.payload datagram)) := by
    unfold blocks
    rw [hlocked, Bool.true_and, Message.isArmRequest_eq_readable hkind hspells]
  refine ⟨fun hreadable => ?_, fun hunreadable => ?_⟩
  · rw [handle_of_blocked hinspect (hblocks.trans (decide_eq_true hreadable))]
    exact ⟨rfl, rfl⟩
  · exact handle_eq_unlocked hinspect (hblocks.trans (decide_eq_false hunreadable)) sender now reply

/-! ## A request in an unknown frame of reference -/

/-- The payload of a position command that spells arming, with the given frame of reference. -/
def armingPayload (frame : UInt8) : Bytes :=
  [0x00, 0x00, 0x80, 0x3F] ++ List.replicate 24 0 ++ [0x90, 0x01, 0x01, 0x01, frame]

/-- A frame of version 1 around that payload. -/
def armingDatagram (frame : UInt8) : Bytes :=
  [0xFE, 33, 0, 5, 1, 75] ++ armingPayload frame ++ [0, 0]

/-- A worker that has read a locked gate and heard no one yet. -/
def lockedWorker : Uplink where
  state := .empty (.v4 ⟨10, 0, 0, 1⟩ 14550) 10000000000
  backpressure := { capacity := 4096, timeout := 1000000000 }
  purgeInterval := 1000000000
  lastPurge := 0
  rcLocked := true

/-- What the header of that frame says. -/
def armingHeader : Frame.Header where
  marker := .v1
  payloadLength := 33
  incompatFlags := 0
  sequence := 0
  system := 5
  component := 1
  messageId := MessageKind.commandInt

theorem inspect_armingDatagram (frame : UInt8) :
    Frame.inspect (armingDatagram frame) = .ok armingHeader := rfl

/-- The last known frame of reference is held back, and the first unknown one is not. -/
theorem locked_gate_blocks_reference_frame :
    lockedWorker.rcLocked = true ∧ armingHeader.messageId = MessageKind.commandInt ∧
      Message.SpellsArming (armingHeader.payload (armingDatagram 21)) ∧
      Message.ArmingReadable armingHeader.messageId (armingHeader.payload (armingDatagram 21)) ∧
      (lockedWorker.handle (armingDatagram 21) (.v4 ⟨10, 0, 0, 2⟩ 14550) 0
        { polls := [⟨.bytes 0, 0⟩] }).outcome = .armBlocked ∧
      Message.SpellsArming (armingHeader.payload (armingDatagram 22)) ∧
      ¬ Message.ArmingReadable armingHeader.messageId (armingHeader.payload (armingDatagram 22)) ∧
      (lockedWorker.handle (armingDatagram 22) (.v4 ⟨10, 0, 0, 2⟩ 14550) 0
        { polls := [⟨.bytes 0, 0⟩] }).outcome ≠ .armBlocked := by
  have hblocked := locked_gate_blocks_readable (w := lockedWorker) rfl (inspect_armingDatagram 21)
    (Or.inr rfl) (by decide) (.v4 ⟨10, 0, 0, 2⟩ 14550) 0 { polls := [⟨.bytes 0, 0⟩] }
  have hpassed := locked_gate_blocks_readable (w := lockedWorker) rfl (inspect_armingDatagram 22)
    (Or.inr rfl) (by decide) (.v4 ⟨10, 0, 0, 2⟩ 14550) 0 { polls := [⟨.bytes 0, 0⟩] }
  exact ⟨rfl, rfl, by decide, by decide, (hblocked.1 (by decide)).1, by decide, by decide,
    (hpassed.2 (by decide)).1⟩

/-- A command that spells arming is written to the serial line although the gate is locked. -/
theorem arming_passes_locked_gate :
    Frame.inspect (armingDatagram 22) = .ok armingHeader ∧
      armingHeader.messageId = MessageKind.commandInt ∧
      Message.SpellsArming (armingHeader.payload (armingDatagram 22)) ∧
      lockedWorker.rcLocked = true ∧
      (lockedWorker.handle (armingDatagram 22) (.v4 ⟨10, 0, 0, 2⟩ 14550) 0
        { polls := [⟨.bytes 0, 0⟩] }).outcome = .forwarded ∧
      (lockedWorker.handle (armingDatagram 22) (.v4 ⟨10, 0, 0, 2⟩ 14550) 0
        { polls := [⟨.bytes 0, 0⟩] }).writes = [armingDatagram 22] :=
  ⟨rfl, rfl, by decide, rfl, by decide, by decide⟩

end Uplink

end VehicleLink
