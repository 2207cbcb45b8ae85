import VehicleLink.Proofs.Aggregate.Partition
import VehicleLink.Proofs.Downlink.FanOut

/-!
# Where batches are cut

After everything that the worker does there is room for one more frame, however long (`Roomy`): what
would leave less room is followed by a flush. Frames from the serial line are therefore never
refused, and an injected datagram only until the frames before it are sent.

While nothing but what comes in makes the worker send, the batches are cut greedily. What a stretch
of actions sends and what then waits is told by `Sends`, which composes like the greedy cut itself
(`Sends.trans`, `Aggregate.cutUp_append`), so that a stretch is as easy as one action.
-/

namespace VehicleLink

namespace Aggregate

/-- The datagrams carry the batches, one each, and are numbered from `first` on, modulo `2 ^ 32`. -/
inductive Series (limit : Nat) : UInt32 → List (List Bytes) → List Bytes → Prop where
  | nil (first : UInt32) : Series limit first [] []
  | cons {first : UInt32} {frames : List Bytes} {datagram : Bytes} {batches : List (List Bytes)}
      {datagrams : List Bytes} (hfirst : Carries limit first frames datagram)
      (hrest : Series limit (first + 1) batches datagrams) :
      Series limit first (frames :: batches) (datagram :: datagrams)

/-- Two series in a row are one, if the second is numbered on from the first. -/
theorem Series.append {limit : Nat} {first : UInt32} {batches more : List (List Bytes)}
    {datagrams others : List Bytes} (h : Series limit first batches datagrams)
    (hmore : Series limit (first + UInt32.ofNat batches.length) more others) :
    Series limit first (batches ++ more) (datagrams ++ others) := by
  induction h with
  | nil first =>
    rwa [List.length_nil, show UInt32.ofNat 0 = 0 from rfl, UInt32.add_zero] at hmore
  | @cons first frames datagram batches datagrams hfirst hrest ih =>
    refine .cons hfirst (ih ?_)
    rwa [List.length_cons, UInt32.ofNat_add, UInt32.add_comm (UInt32.ofNat _), ← UInt32.add_assoc]
      at hmore

end Aggregate

namespace Downlink

/-! ## What is sent between two moments -/

/-- What was sent to the primary controller between two moments are the batches of the cut, numbered
one after the other, and what is left over of the cut waits in the end. -/
structure Sends (limit : Nat) (primary : SocketAddress) (w v : Downlink)
    (cut : List (List Bytes) × List Bytes) : Prop where
  posted : ∃ datagrams, datagramsTo primary v.sent = datagramsTo primary w.sent ++ datagrams ∧
    Aggregate.Series limit w.batch cut.1 datagrams
  batch_eq : v.batch = w.batch + UInt32.ofNat cut.1.length
  waiting : v.aggregate.frames = cut.2

variable {net : Network} {w v u : Downlink} {bulkIds : List UInt32} {primary : SocketAddress}
  {limit : Nat} {arrived : List Bytes}

theorem sends_nothing (hbatch : v.batch = w.batch)
    (hsent : datagramsTo primary v.sent = datagramsTo primary w.sent) {left : List Bytes}
    (hwaiting : v.aggregate.frames = left) : Sends limit primary w v ([], left) where
  posted := ⟨[], by rw [hsent, List.append_nil], .nil _⟩
  batch_eq := by rw [hbatch, List.length_nil, show UInt32.ofNat 0 = 0 from rfl, UInt32.add_zero]
  waiting := hwaiting

/-- What is sent in one stretch and then in another. -/
theorem Sends.trans {first second : List (List Bytes) × List Bytes}
    (h : Sends limit primary w v first) (hnext : Sends limit primary v u second) :
    Sends limit primary w u (first.1 ++ second.1, second.2) := by
  obtain ⟨datagrams, hsent, hseries⟩ := h.posted
  obtain ⟨others, hsent', hseries'⟩ := hnext.posted
  refine ⟨⟨datagrams ++ others, ?_, ?_⟩, ?_, hnext.waiting⟩
  · rw [hsent', hsent, List.append_assoc]
  -- The second stretch is numbered from where the first one has come to.
  · exact hseries.append (h.batch_eq ▸ hseries')
  · rw [hnext.batch_eq, h.batch_eq, List.length_append, UInt32.ofNat_add, UInt32.add_assoc]

/-- A flush sends all that waits as one batch, if anything waits. -/
theorem sends_flush (net : Network) (h : Ledger bulkIds primary limit arrived w.books) :
    Sends limit primary w (w.flush net)
      (if w.aggregate.frames = [] then [] else [w.aggregate.frames], []) := by
  have hprimary : w.state.primary = primary := h.primary_eq
  split
  · rename_i hframes
    rw [flush_of_eq_nil net hframes]
    exact sends_nothing rfl rfl hframes
  · rename_i hframes
    have hbooks := books_flush_of_ne_nil net hframes
    have hsent : (w.flush net).sent = _ := congrArg Books.sent hbooks
    refine ⟨⟨[_], ?_, .cons (h.carries_waiting hframes (net.wallMicros w.sent.size)) (.nil _)⟩,
      congrArg Books.batch hbooks, frames_flush net w⟩
    rw [hsent, hprimary, datagramsTo_push_self]

/-- What is passed on to clients does not concern the primary controller. -/
theorem sends_fanOut (net : Network) (h : Ledger bulkIds primary limit arrived w.books)
    (bytes : Bytes) (targets : Option Targets) :
    Sends limit primary w (w.fanOut net bytes targets) ([], w.aggregate.frames) := by
  have hcourse := course_fanOut net w bytes targets
  have hprimary : w.state.directory.registry.primary = primary := h.primary_eq
  have hclients : primary ∉
      (w.state.directory.after (net.meanwhile w.messages)).recipients targets :=
    hprimary ▸ Directory.primary_notMem_recipients_after h.apart _ targets
  refine sends_nothing (congrArg Course.batch hcourse) ?_
    (congrArg Aggregate.frames (aggregate_fanOut net w bytes targets))
  rw [← addressedTo_course, ← addressedTo_course, hcourse]
  show addressedTo primary (w.course.sent ++ _) = _
  rw [addressedTo_append, addressedTo_map_of_notMem hclients, List.append_nil]

/-! ## Room for one more frame -/

/-- Whatever waits, there is room for the longest frame behind it. -/
structure Roomy (bulkIds : List UInt32) (primary : SocketAddress) (limit : Nat) (w : Downlink) :
    Prop where
  ledger : ∃ arrived, Ledger bulkIds primary limit arrived w.books
  room : Frame.maxLength ≤ w.aggregate.remaining

/-- There is room behind what waits for the longest frame. -/
theorem Roomy.size_add_le (h : Roomy bulkIds primary limit w) :
    w.aggregate.size + Frame.maxLength ≤ limit := by
  obtain ⟨arrived, hledger⟩ := h.ledger
  have hlimit : w.aggregate.limit = limit := hledger.limit_eq
  have hroom : Frame.maxLength ≤ w.aggregate.limit - w.aggregate.size := h.room
  have hpos : 0 < Frame.maxLength := by decide
  omega

/-- What waits is too little for a batch of its own. -/
theorem Roomy.waiting_le (h : Roomy bulkIds primary limit w) :
    w.aggregate.frames.flatten.length ≤ limit - Frame.maxLength := by
  obtain ⟨arrived, hledger⟩ := h.ledger
  have hsize : w.aggregate.size = w.aggregate.frames.flatten.length := hledger.sized.size_eq
  have hle := h.size_add_le
  omega

/-- After a flush there is room for any frame, as the limit can hold one. -/
theorem remaining_flush (net : Network) (h : Ledger bulkIds primary limit arrived w.books)
    (hlimit : Frame.maxLength ≤ limit) : Frame.maxLength ≤ (w.flush net).aggregate.remaining := by
  have hempty := h.size_flush net
  have hflushed : Ledger bulkIds primary limit arrived (w.flush net).books := h.flush
  have hsame : (w.flush net).aggregate.limit = limit := hflushed.limit_eq
  unfold Aggregate.remaining
  omega

/-- Whatever is added, and whether or not it is: if that leaves too little room, a flush follows. -/
theorem remaining_aggregateFrame (h : Ledger bulkIds primary limit arrived w.books)
    (hlimit : Frame.maxLength ≤ limit) (bytes : Bytes) (micros : UInt64) :
    Frame.maxLength ≤ (w.aggregateFrame net bytes micros).aggregate.remaining := by
  rw [aggregateFrame_eq]
  split
  · exact remaining_flush net (h.collect bytes micros) hlimit
  · rename_i hwaits
    rw [flushesAtOnce, Bool.or_eq_true, not_or] at hwaits
    have hnearly : ¬ (w.collect net bytes micros).aggregate.remaining < Frame.maxLength :=
      fun hlt => hwaits.2 (decide_eq_true hlt)
    -- It was not flushed, so that it cannot be nearly full.
    exact Nat.le_of_not_lt hnearly

/-- Whatever comes in, there is room afterwards. -/
theorem Roomy.treat (h : Roomy bulkIds primary limit w) (a : Arrival) :
    Frame.maxLength ≤ (w.treat net a).aggregate.remaining := by
  obtain ⟨arrived, hledger⟩ := h.ledger
  have hbooks := books_noted w a
  rw [treat_eq, aggregate_fanOut]
  split
  -- Bulk data does not go into the batch.
  · exact congrArg (fun b : Books => b.aggregate.remaining) hbooks ▸ h.room
  · have hle := h.size_add_le
    exact remaining_aggregateFrame (hbooks ▸ hledger) (by omega) a.bytes a.micros

/-- After every action there is room, whatever the gate and the clock say. -/
theorem Roomy.perform (h : Roomy bulkIds primary limit w) (action : Action) :
    Roomy bulkIds primary limit (w.perform net action) := by
  obtain ⟨arrived, hledger⟩ := h.ledger
  have hle := h.size_add_le
  have hlimit : Frame.maxLength ≤ limit := by omega
  refine ⟨⟨_, hledger.perform action⟩, ?_⟩
  cases action with
  | begin | readGate | addBlocked | scan | countNoise | reportInjection | publish | finish =>
    exact h.room
  | treat a => exact h.treat a
  | flush => exact remaining_flush net hledger hlimit
  | meetDeadline now =>
    show Frame.maxLength ≤ (w.meetDeadline net now).aggregate.remaining
    unfold meetDeadline
    split
    · exact remaining_flush net hledger hlimit
    · exact h.room

theorem Roomy.performAll (h : Roomy bulkIds primary limit w) (actions : List Action) :
    Roomy bulkIds primary limit (w.performAll net actions) := by
  induction actions generalizing w with
  | nil => exact h
  | cons action rest ih => exact ih (h.perform action)

theorem roomy_start (c : Config) (hlimit : Frame.maxLength ≤ c.aggregateMaxPayload.toNat)
    {state : State} (hstate : state.directory.Reachable) (created : Nat) :
    Roomy c.bulkTransferIds state.primary (min c.aggregateMaxPayload.toNat Aggregate.maxLimit)
      (start c state created) := by
  refine ⟨⟨[], ledger_start c hstate created⟩, ?_⟩
  show Frame.maxLength ≤ min c.aggregateMaxPayload.toNat Aggregate.maxLimit - 0
  rw [Nat.sub_zero]
  exact Nat.le_min.2 ⟨hlimit, by decide⟩

/-! ## Refusals -/

theorem Roomy.append_of_short (h : Roomy bulkIds primary limit w) {bytes : Bytes}
    (hshort : bytes.length ≤ Frame.maxLength) (micros : UInt64) :
    ∃ aggregate, w.aggregate.append bytes micros = .ok aggregate := by
  obtain ⟨arrived, hledger⟩ := h.ledger
  have hlimit : w.aggregate.limit = limit := hledger.limit_eq
  have hle := h.size_add_le
  exact ⟨_, Aggregate.append_of_fits (by omega)⟩

/-- What is refused although it is within the limit is too long for what room there always is, and
goes in once the frames before it are sent. -/
theorem Roomy.append_eq_error (h : Roomy bulkIds primary limit w) (net : Network) {bytes : Bytes}
    (hbytes : bytes.length ≤ limit) {micros : UInt64} {e : WireError}
    (herror : w.aggregate.append bytes micros = .error e) :
    Frame.maxLength < bytes.length ∧
      e = .aggregateOverflow bytes.length w.aggregate.remaining ∧
      ∃ aggregate, (w.flush net).aggregate.append bytes micros = .ok aggregate := by
  obtain ⟨arrived, hledger⟩ := h.ledger
  have hlimit : w.aggregate.limit = limit := hledger.limit_eq
  refine ⟨?_, ?_, hledger.append_flush_of_le net hbytes micros⟩
  -- Anything shorter would have gone in.
  · refine Nat.lt_of_not_le fun hshort => ?_
    obtain ⟨aggregate, happend⟩ := h.append_of_short hshort micros
    exact nomatch happend.symm.trans herror
  · -- Of the two refusals, the one for good is ruled out by the limit.
    by_cases hfits : w.aggregate.size + bytes.length ≤ w.aggregate.limit
    · exact nomatch (Aggregate.append_of_fits hfits).symm.trans herror
    · have hsized : w.aggregate.Sized := hledger.sized
      have hfull : w.aggregate.append bytes micros = .error _ :=
        hsized.append_of_full (hlimit ▸ hbytes) (Nat.lt_of_not_le hfits)
      exact (Except.error.inj (hfull.symm.trans herror)).symm

/-! ## The greedy cut -/

/-- With an open gate, a frame goes to those that wait, and all of them are sent if that makes a
batch. -/
theorem Roomy.sends_aggregateFrame (h : Roomy bulkIds primary limit w) (net : Network)
    (hopen : w.rcLocked = false) {bytes : Bytes} (hshort : bytes.length ≤ Frame.maxLength)
    (micros : UInt64) :
    Sends limit primary w (w.aggregateFrame net bytes micros)
      (Aggregate.cutUp (limit - Frame.maxLength) (w.aggregate.frames ++ [bytes])) := by
  obtain ⟨arrived, hledger⟩ := h.ledger
  obtain ⟨aggregate, happend⟩ := h.append_of_short hshort micros
  have hcollect : w.collect net bytes micros = { w with aggregate } := by
    rw [collect, happend]
  have hcollected := hledger.append happend
  have hframes := (Aggregate.frames_of_append happend).1
  have hsize : aggregate.size = aggregate.frames.flatten.length := hcollected.sized.size_eq
  have hlimit : aggregate.limit = limit := hcollected.limit_eq
  have hle : aggregate.size ≤ aggregate.limit := hcollected.sized.size_le
  have hroom := h.size_add_le
  -- Whether it is nearly full is whether its frames are enough for a batch.
  have hflushes : ({ w with aggregate } : Downlink).flushesAtOnce =
      decide (limit - Frame.maxLength < (w.aggregate.frames ++ [bytes]).flatten.length) := by
    rw [flushesAtOnce, show ({ w with aggregate } : Downlink).rcLocked = false from hopen,
      Bool.false_or, ← hframes, ← hsize]
    refine decide_eq_decide.2 ?_
    show aggregate.limit - aggregate.size < Frame.maxLength ↔ _
    omega
  have hnothing : Sends limit primary w { w with aggregate } ([], w.aggregate.frames ++ [bytes]) :=
    sends_nothing (w := w) (v := { w with aggregate }) rfl rfl hframes
  -- So the cut is the one that one more frame brings.
  rw [aggregateFrame_eq, hcollect, hflushes, Aggregate.cutUp_concat h.waiting_le]
  simp only [decide_eq_true_eq]
  split
  · have hflushed := hnothing.trans (sends_flush net hcollected)
    have hsome : aggregate.frames ≠ [] := by
      rw [hframes]
      exact List.concat_ne_nil bytes w.aggregate.frames
    rw [if_neg hsome, List.nil_append] at hflushed
    exact hframes ▸ hflushed
  · exact hnothing

/-- An arrival is cut off with those that wait, if it is for the primary controller, and passing it
on changes nothing in that. -/
theorem Roomy.sends_treat (h : Roomy bulkIds primary limit w) (net : Network)
    (hopen : w.rcLocked = false) {a : Arrival} (hshort : a.bytes.length ≤ Frame.maxLength) :
    Sends limit primary w (w.treat net a)
      (Aggregate.cutUp (limit - Frame.maxLength)
        (w.aggregate.frames ++ forPrimary bulkIds [a])) := by
  obtain ⟨arrived, hledger⟩ := h.ledger
  have hbooks := books_noted w a
  have hledger' : Ledger bulkIds primary limit arrived (w.noted a).books := hbooks ▸ hledger
  have hframes : (w.noted a).aggregate.frames = w.aggregate.frames :=
    congrArg (fun b : Books => b.aggregate.frames) hbooks
  have hnoted : Sends limit primary w (w.noted a) ([], w.aggregate.frames) :=
    sends_nothing (congrArg Books.batch hbooks)
      (congrArg (fun b : Books => datagramsTo primary b.sent) hbooks) hframes
  have hbulkIds : w.bulkIds = bulkIds := hledger.bulkIds_eq
  rw [treat_eq, hbulkIds]
  cases hkind : a.isBulk bulkIds with
  | true =>
    -- Bulk data is for the clients only.
    rw [forPrimary_of_bulk hkind, List.append_nil, Aggregate.cutUp_of_le h.waiting_le]
    have hfanned := hnoted.trans (sends_fanOut net hledger' a.bytes a.targets)
    rw [hframes] at hfanned
    exact hfanned
  | false =>
    rw [forPrimary_of_not_bulk hkind, ← hframes]
    have hroomy : Roomy bulkIds primary limit (w.noted a) :=
      ⟨⟨arrived, hledger'⟩, congrArg (fun b : Books => b.aggregate.remaining) hbooks ▸ h.room⟩
    have hopen' : (w.noted a).rcLocked = false :=
      (congrArg (fun c : Course => c.settings.rcLocked) (course_noted w a)).trans hopen
    have hcut := hroomy.sends_aggregateFrame net hopen' hshort a.micros
    have hfanned := (hnoted.trans hcut).trans
      (sends_fanOut net (hledger'.aggregateFrame a.bytes a.micros) a.bytes a.targets)
    rw [hcut.waiting, List.nil_append, List.append_nil] at hfanned
    exact hfanned

/-- Whether an action leaves it to what comes in when batches are sent: the gate is open, the
deadline has not come, and nothing is flushed. -/
def Action.isPatient (nextFlush : Nat) : Action → Bool
  | .readGate locked => !locked
  | .meetDeadline now => now < nextFlush
  | .begin _ | .flush => false
  | .addBlocked _ | .scan _ | .treat _ | .countNoise | .reportInjection _ | .publish
  | .finish => true

/-- After a patient action the gate is still open and the deadline is still the same. -/
theorem patient_perform (net : Network) (hopen : w.rcLocked = false) {action : Action}
    (hpatient : action.isPatient w.nextFlush = true) :
    (w.perform net action).rcLocked = false ∧ (w.perform net action).nextFlush = w.nextFlush := by
  cases action with
  | begin | flush => cases hpatient
  | addBlocked | scan | countNoise | reportInjection | publish | finish => exact ⟨hopen, rfl⟩
  | readGate locked =>
    have hunlocked : locked = false := by simpa [Action.isPatient] using hpatient
    exact ⟨hunlocked, rfl⟩
  | meetDeadline now =>
    have hearly : ¬ w.nextFlush ≤ now := Nat.not_le.2 (of_decide_eq_true hpatient)
    show (w.meetDeadline net now).rcLocked = false ∧
      (w.meetDeadline net now).nextFlush = w.nextFlush
    rw [meetDeadline, if_neg hearly]
    exact ⟨hopen, rfl⟩
  | treat a =>
    have hsettings := settings_treat net w a
    exact ⟨(congrArg Settings.rcLocked hsettings).trans hopen,
      congrArg Settings.nextFlush hsettings⟩

/-- What a patient action sends is what the greedy cut takes off. -/
theorem Roomy.sends_perform (h : Roomy bulkIds primary limit w) (net : Network)
    (hopen : w.rcLocked = false) {action : Action} (hpatient : action.isPatient w.nextFlush = true)
    (hshort : ∀ a ∈ action.arrival?.toList, a.bytes.length ≤ Frame.maxLength) :
    Sends limit primary w (w.perform net action)
      (Aggregate.cutUp (limit - Frame.maxLength)
        (w.aggregate.frames ++ forPrimary bulkIds action.arrival?.toList)) := by
  -- Where nothing is sent, what waits is cut into no batch, as there is still room behind it.
  have hnothing {v : Downlink} (hbatch : v.batch = w.batch) (hsent : v.sent = w.sent)
      (hframes : v.aggregate.frames = w.aggregate.frames) :
      Sends limit primary w v
        (Aggregate.cutUp (limit - Frame.maxLength)
          (w.aggregate.frames ++ forPrimary bulkIds [])) := by
    rw [forPrimary, List.filter_nil, List.map_nil, List.append_nil,
      Aggregate.cutUp_of_le h.waiting_le]
    exact sends_nothing hbatch (congrArg (datagramsTo primary) hsent) hframes
  cases action with
  | begin | flush => cases hpatient
  | readGate | addBlocked | scan | countNoise | reportInjection | publish | finish =>
    exact hnothing rfl rfl rfl
  | meetDeadline now =>
    have hearly : ¬ w.nextFlush ≤ now := Nat.not_le.2 (of_decide_eq_true hpatient)
    have hsame : w.perform net (.meetDeadline now) = w := if_neg hearly
    rw [hsame]
    exact hnothing rfl rfl rfl
  | treat a => exact h.sends_treat net hopen (hshort a List.mem_cons_self)

/-- What patient actions in a row send is what the greedy cut takes off, from what waits and what
comes in. -/
theorem Roomy.sends_performAll (h : Roomy bulkIds primary limit w) (net : Network)
    (hopen : w.rcLocked = false) {actions : List Action}
    (hpatient : ∀ action ∈ actions, action.isPatient w.nextFlush = true)
    (hshort : ∀ a ∈ actions.filterMap Action.arrival?, a.bytes.length ≤ Frame.maxLength) :
    Sends limit primary w (w.performAll net actions)
      (Aggregate.cutUp (limit - Frame.maxLength)
        (w.aggregate.frames ++ forPrimary bulkIds (actions.filterMap Action.arrival?))) := by
  induction actions generalizing w with
  | nil =>
    rw [List.filterMap_nil, forPrimary, List.filter_nil, List.map_nil, List.append_nil,
      Aggregate.cutUp_of_le h.waiting_le]
    exact sends_nothing rfl rfl rfl
  | cons action rest ih =>
    rw [filterMap_arrival?_cons] at hshort ⊢
    have hfirst := h.sends_perform net hopen (hpatient action List.mem_cons_self)
      fun a ha => hshort a (List.mem_append_left _ ha)
    obtain ⟨hopen', hnext⟩ := patient_perform net hopen (hpatient action List.mem_cons_self)
    have hrest := ih (h.perform action) hopen'
      (fun later hlater => hnext ▸ hpatient later (List.mem_cons_of_mem action hlater))
      fun a ha => hshort a (List.mem_append_right _ ha)
    -- What the first action left over is where the others go on.
    rw [hfirst.waiting] at hrest
    rw [forPrimary_append, ← List.append_assoc, Aggregate.cutUp_append]
    exact hfirst.trans hrest

/-! ## Any stretch of a run -/

/-- **Batches are cut greedily, and nothing that fits is refused.** Let the limit of a batch be one
that can hold the longest frame and that the header can tell, and let the worker have done anything
before. Then there is room for the longest frame. So no frame from the serial line is refused; and
what is refused although it is within the limit is longer than any frame, is refused for want of
room only, and goes in after a flush.

Now let nothing wait, let the gate be open, and let the worker do whatever it does between two
deadlines with frames, and with injected datagrams that are not longer than a frame may be. Then it
sends the batches that the frames for the primary controller are cut into greedily, each as soon as
no frame of full length may fit behind it, and what is left over waits in order. The next flush
sends it as one batch, unless there is nothing. -/
theorem batches_cut_greedily (c : Config) (hlimit : Frame.maxLength ≤ c.aggregateMaxPayload.toNat)
    (hmax : c.aggregateMaxPayload.toNat ≤ Aggregate.maxLimit) (state : State)
    (hstate : state.directory.Reachable) (created : Nat) (net : Network) (earlier : List Action) :
    let limit := c.aggregateMaxPayload.toNat
    let w := (start c state created).performAll net earlier
    Frame.maxLength ≤ w.aggregate.remaining ∧
    (∀ f : Frame, f.Whole → f.bytes.length ≤ Frame.maxLength ∧
      ∀ micros, ∃ aggregate, w.aggregate.append f.bytes micros = .ok aggregate) ∧
    (∀ bytes micros e, bytes.length ≤ limit → w.aggregate.append bytes micros = .error e →
      Frame.maxLength < bytes.length ∧
        e = .aggregateOverflow bytes.length w.aggregate.remaining ∧
        ∃ aggregate, (w.flush net).aggregate.append bytes micros = .ok aggregate) ∧
    ∀ later : List Action, w.aggregate.frames = [] → w.rcLocked = false →
      (∀ action ∈ later, action.isPatient w.nextFlush = true) →
      (∀ a ∈ later.filterMap Action.arrival?, a.bytes.length ≤ Frame.maxLength) →
      let v := w.performAll net later
      let cut := Aggregate.cutUp (limit - Frame.maxLength)
        (forPrimary c.bulkTransferIds (later.filterMap Action.arrival?))
      Sends limit state.primary w v cut ∧
        cut.2.flatten.length ≤ limit - Frame.maxLength ∧
        Sends limit state.primary v (v.flush net) (if cut.2 = [] then [] else [cut.2], []) := by
  intro limit w
  have hroomy : Roomy c.bulkTransferIds state.primary limit w := by
    have hstart := roomy_start c hlimit hstate created
    rw [Nat.min_eq_left hmax] at hstart
    exact hstart.performAll earlier
  refine ⟨hroomy.room, fun _ hf => ⟨hf.length_le, hroomy.append_of_short hf.length_le⟩,
    fun _ _ _ hbytes herror => hroomy.append_eq_error net hbytes herror, ?_⟩
  intro later hframes hopen hpatient hshort v cut
  have hsends := hroomy.sends_performAll net hopen hpatient hshort
  rw [hframes, List.nil_append] at hsends
  -- The last part is about the worker after the stretch, to which the invariant has been carried
  -- along.
  have hlater : Roomy c.bulkTransferIds state.primary limit v := hroomy.performAll later
  obtain ⟨arrived, hledger⟩ := hlater.ledger
  have hflushed := sends_flush net hledger
  rw [hsends.waiting] at hflushed
  exact ⟨hsends, Aggregate.length_left_le _ _, hflushed⟩

/-- Four frames come in at once, and then no more. -/
def fourFrames : List Iteration :=
  [⟨false, 0, .ready 10 (some (.received (shortFrame ++ signedFrame ++ shortFrame ++ shortFrame) 7))
      [] none⟩,
   ⟨false, 1, .ready 5 none [] none⟩]

/-- Room for 300 bytes is too little for another frame as soon as more than 20 bytes wait. -/
theorem four_frames_cut :
    let c : Config := { aggregateMaxPayload := 300 }
    let primary : SocketAddress := .v4 ⟨10, 0, 0, 1⟩ 14550
    let w := (start c (.empty primary 10) 0).performAll hesitantNetwork
      [.treat (.injected [1, 2, 3] 0), .flush]
    let v := w.performAll hesitantNetwork (loopActions {} fourFrames)
    (Directory.empty primary 10).Reachable ∧ w.aggregate.frames = [] ∧ w.batch = 1 ∧
      Sends 300 primary w v ([[shortFrame, signedFrame]], [shortFrame, shortFrame]) ∧
      Sends 300 primary v (v.flush hesitantNetwork) ([[shortFrame, shortFrame]], []) := by
  intro c primary w v
  have hreachable : (Directory.empty primary 10).Reachable := ⟨_, _, [], rfl⟩
  obtain ⟨-, -, -, hcuts⟩ := batches_cut_greedily c (by decide) (by decide) (.empty primary 10)
    hreachable 0 hesitantNetwork [.treat (.injected [1, 2, 3] 0), .flush]
  have hcut : Aggregate.cutUp 20 (forPrimary c.bulkTransferIds
      ((loopActions {} fourFrames).filterMap Action.arrival?)) =
        ([[shortFrame, signedFrame]], [shortFrame, shortFrame]) := by decide +kernel
  obtain ⟨hsends, -, hflushed⟩ := hcuts (loopActions {} fourFrames) (by decide +kernel) rfl
    (by decide +kernel) (by decide +kernel)
  -- Three hundred less the length of the longest frame.
  have hthreshold : c.aggregateMaxPayload.toNat - Frame.maxLength = 20 := by decide
  rw [hthreshold, hcut] at hsends hflushed
  exact ⟨hreachable, by decide +kernel, by decide +kernel, hsends, hflushed⟩

end Downlink

end VehicleLink
