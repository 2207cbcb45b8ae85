import VehicleLink.Proofs.Downlink.Batches
import VehicleLink.Proofs.Downlink.Isolation

/-!
# What the clients get

Whatever comes in is passed on at once, to those clients that it concerns when it comes in. What a
run sends to others than the primary controller can therefore be told from its arrivals and from the
directory alone (`fannedOut`), and so can what each client is sent (`routedTo`). Collecting for the
primary controller goes on in between and makes no difference: it leaves the `Trail` of a worker
alone, and treating an arrival adds to the trail what that arrival calls for (`trail_treat`).

That holds for all runs at once because the primary controller is never a client, and because
what becomes of a datagram does not matter to the others (`run_congr`).
-/

namespace VehicleLink

/-- The directory that the worker finds for the message with number `n`, if it starts with `d`. -/
def Network.directoryAt (net : Network) (d : Directory) (n : Nat) : Directory :=
  -- Others act before each message, the one with this number included.
  d.after ((List.range (n + 1)).flatMap net.meanwhile)

namespace Downlink

/-- The clients that an arrival is passed on to as message number `n`. -/
def recipientsAt (net : Network) (d : Directory) (n : Nat) (a : Arrival) : List SocketAddress :=
  (net.directoryAt d n).recipients a.targets

/-- The datagrams for clients that the arrivals call for, from message number `n` on. -/
def fannedOut (net : Network) (d : Directory) (n : Nat) (arrivals : List Arrival) :
    List (SocketAddress × Bytes) :=
  (arrivals.zipIdx n).flatMap fun (a, k) => (recipientsAt net d k a).map (·, a.bytes)

/-- What the arrivals call for at one client. -/
def routedTo (net : Network) (d : Directory) (client : SocketAddress) (arrivals : List Arrival) :
    List Bytes :=
  (arrivals.zipIdx.filter fun (a, k) => client ∈ recipientsAt net d k a).map fun (a, _) => a.bytes

/-- What was handed over for others than the primary controller. -/
def passedOn (primary : SocketAddress) (sent : List (SocketAddress × Bytes)) :
    List (SocketAddress × Bytes) :=
  sent.filter fun s => s.1 ≠ primary

/-- What was handed over for one of them. -/
def addressedTo (target : SocketAddress) (sent : List (SocketAddress × Bytes)) : List Bytes :=
  (sent.filter fun s => s.1 = target).map Prod.snd

/-- The datagrams that reached the target, in order. -/
def receivedBy (target : SocketAddress) (sent : Array SendAttempt) : List Bytes :=
  (sent.toList.filter fun s => s.target = target ∧ s.delivery = .delivered).map SendAttempt.bytes

variable {net : Network} {d : Directory}

/-! ## Who gets an arrival -/

theorem fannedOut_cons (n : Nat) (a : Arrival) (rest : List Arrival) :
    fannedOut net d n (a :: rest) =
      (recipientsAt net d n a).map (·, a.bytes) ++ fannedOut net d (n + 1) rest := by
  unfold fannedOut
  rw [List.zipIdx_cons, List.flatMap_cons]

theorem fannedOut_append (n : Nat) (first second : List Arrival) :
    fannedOut net d n (first ++ second) =
      fannedOut net d n first ++ fannedOut net d (n + first.length) second := by
  unfold fannedOut
  rw [List.zipIdx_append, List.flatMap_append]

theorem nodup_recipientsAt (net : Network) (d : Directory) (n : Nat) (a : Arrival) :
    (recipientsAt net d n a).Nodup :=
  Directory.nodup_recipients _ _

/-- The primary controller is no client, whatever others do before the message. -/
theorem primary_notMem_recipientsAt (h : d.registry.Apart) (n : Nat) (a : Arrival) :
    d.registry.primary ∉ recipientsAt net d n a :=
  Directory.primary_notMem_recipients_after h _ a.targets

/-- What is injected is for all clients that are registered by then. -/
theorem recipientsAt_injected (n : Nat) (bytes : Bytes) (micros : UInt64) :
    recipientsAt net d n (.injected bytes micros) = (net.directoryAt d n).clients :=
  Directory.recipients_of_everyone fun _ => Routes.reaches_none

/-- What is sent to one of many who get the same bytes. -/
theorem addressedTo_map (target : SocketAddress) (clients : List SocketAddress) (bytes : Bytes) :
    addressedTo target (clients.map (·, bytes)) =
      (clients.filter fun client => client = target).map fun _ => bytes := by
  unfold addressedTo
  rw [List.filter_map, List.map_map]
  rfl

theorem addressedTo_map_of_notMem {target : SocketAddress} {clients : List SocketAddress}
    (h : target ∉ clients) (bytes : Bytes) : addressedTo target (clients.map (·, bytes)) = [] := by
  rw [addressedTo_map, List.map_eq_nil_iff, List.filter_eq_nil_iff]
  exact fun client hclient htarget => h (of_decide_eq_true htarget ▸ hclient)

theorem addressedTo_append (target : SocketAddress) (first second : List (SocketAddress × Bytes)) :
    addressedTo target (first ++ second) =
      addressedTo target first ++ addressedTo target second := by
  unfold addressedTo
  rw [List.filter_append, List.map_append]

/-- Among the recipients of a message a client is found once or not at all. -/
theorem filter_recipientsAt (n : Nat) (a : Arrival) (client : SocketAddress) :
    ((recipientsAt net d n a).filter fun r => r = client) =
      if client ∈ recipientsAt net d n a then [client] else [] := by
  rw [List.filter_eq, (nodup_recipientsAt net d n a).count]
  split <;> rfl

theorem addressedTo_recipients (client : SocketAddress) (p : Arrival × Nat) :
    addressedTo client ((recipientsAt net d p.2 p.1).map (·, p.1.bytes)) =
      if client ∈ recipientsAt net d p.2 p.1 then [p.1.bytes] else [] := by
  rw [addressedTo_map, filter_recipientsAt]
  split <;> rfl

/-- Of what the arrivals call for, a client is sent what is routed to it. -/
theorem addressedTo_fannedOut (client : SocketAddress) (arrivals : List Arrival) :
    addressedTo client (fannedOut net d 0 arrivals) = routedTo net d client arrivals := by
  have hall : addressedTo client (fannedOut net d 0 arrivals) =
      arrivals.zipIdx.flatMap fun p =>
        addressedTo client ((recipientsAt net d p.2 p.1).map (·, p.1.bytes)) := by
    unfold addressedTo fannedOut
    rw [List.filter_flatMap, List.map_flatMap]
  -- Arrival by arrival, the client is one of the recipients or not.
  rw [hall]
  unfold routedTo
  induction arrivals.zipIdx with
  | nil => rfl
  | cons p rest ih =>
    rw [List.flatMap_cons, addressedTo_recipients, ih, List.filter_cons]
    simp only [decide_eq_true_eq]
    split <;> rfl

/-! ## The trail of a worker -/

/-- What decides what clients are sent, with what they were sent. -/
structure Trail where
  directory : Directory
  messages : Nat
  passedOn : List (SocketAddress × Bytes)
deriving DecidableEq

def Course.trail (c : Course) : Trail where
  directory := c.directory
  messages := c.messages
  passedOn := Downlink.passedOn c.directory.registry.primary c.sent

/-- What decides what clients are sent by this worker, with what they were sent. -/
def trail (w : Downlink) : Trail := w.course.trail

/-- The trail once an arrival was treated. -/
def Trail.add (net : Network) (t : Trail) (a : Arrival) : Trail :=
  -- Others come first, and then the directory is looked at for this message.
  let directory := t.directory.after (net.meanwhile t.messages)
  { directory
    messages := t.messages + 1
    passedOn := t.passedOn ++ (directory.recipients a.targets).map (·, a.bytes) }

theorem passedOn_append (primary : SocketAddress) (first second : List (SocketAddress × Bytes)) :
    passedOn primary (first ++ second) = passedOn primary first ++ passedOn primary second :=
  List.filter_append ..

/-- A batch is for the primary controller, and leaves no trail. -/
theorem trail_flush (net : Network) (w : Downlink) : (w.flush net).trail = w.trail := by
  unfold trail
  rw [course_flush]
  cases w.aggregate.take? w.batch (net.wallMicros w.sent.size) with
  | none => rfl
  | some taken =>
    have hprimary : passedOn w.state.primary [(w.state.primary, taken.1)] = [] := by
      simp [passedOn]
    have hpassed : passedOn w.state.primary (w.course.sent ++ [(w.state.primary, taken.1)]) =
        passedOn w.state.primary w.course.sent := by
      rw [passedOn_append, hprimary, List.append_nil]
    exact congrArg (Trail.mk w.state.directory w.messages) hpassed

theorem trail_aggregateFrame (net : Network) (w : Downlink) (bytes : Bytes) (micros : UInt64) :
    (w.aggregateFrame net bytes micros).trail = w.trail :=
  aggregateFrame_keeps net (P := fun v => v.trail = w.trail) (fun _ _ h => h)
    (fun v h => (trail_flush net v).trans h) rfl bytes micros

theorem passedOn_map_of_notMem {primary : SocketAddress} {clients : List SocketAddress}
    (h : primary ∉ clients) (bytes : Bytes) :
    passedOn primary (clients.map (·, bytes)) = clients.map (·, bytes) := by
  refine List.filter_eq_self.2 fun s hs => ?_
  obtain ⟨client, hclient, rfl⟩ := List.mem_map.1 hs
  exact decide_eq_true (ne_of_mem_of_not_mem hclient h)

/-- Others may change the directory before it is looked at, but not who the primary controller
is. -/
theorem trail_fanOut {w : Downlink} (h : w.state.directory.registry.Apart) (a : Arrival) :
    (w.fanOut net a.bytes a.targets).trail = w.trail.add net a := by
  have hprimary := Directory.primary_after w.state.directory (net.meanwhile w.messages)
  have hclients := Directory.primary_notMem_recipients_after h (net.meanwhile w.messages) a.targets
  unfold trail Trail.add
  rw [course_fanOut]
  simp only [Course.trail]
  -- The sent list is filtered by the primary controller of the new directory, which is the one of
  -- the old.
  rw [passedOn_append, hprimary, passedOn_map_of_notMem hclients]
  rfl

/-- Treating an arrival adds to the trail what the arrival calls for, whether or not it is collected
for the primary controller. -/
theorem trail_treat {w : Downlink} (h : w.state.directory.registry.Apart) (a : Arrival) :
    (w.treat net a).trail = w.trail.add net a := by
  -- What was done before the message is passed on left no trail.
  have hbefore {v : Downlink} (hv : v.trail = w.trail) :
      (v.fanOut net a.bytes a.targets).trail = w.trail.add net a := by
    have hdirectory : v.state.directory = w.state.directory := congrArg Trail.directory hv
    rw [trail_fanOut (hdirectory ▸ h), hv]
  have hnoted : (w.noted a).trail = w.trail := congrArg Course.trail (course_noted w a)
  rw [treat_eq]
  refine hbefore ?_
  split
  · exact hnoted
  · exact (trail_aggregateFrame net (w.noted a) a.bytes a.micros).trans hnoted

theorem trail_meetDeadline (net : Network) (w : Downlink) (now : Nat) :
    (w.meetDeadline net now).trail = w.trail := by
  unfold meetDeadline
  split
  · exact trail_flush net w
  · rfl

/-- Each action leaves the trail alone but for what it treats. -/
theorem trail_perform {w : Downlink} (h : w.state.directory.registry.Apart) (action : Action) :
    (w.perform net action).trail = action.arrival?.toList.foldl (Trail.add net) w.trail := by
  cases action with
  | begin | readGate | addBlocked | scan | countNoise | reportInjection | publish | finish => rfl
  | meetDeadline now => exact trail_meetDeadline net w now
  | flush => exact trail_flush net w
  | treat a => exact trail_treat h a

/-- Only what others do meanwhile changes the directory along the trail. -/
theorem Trail.directory_foldl (net : Network) (t : Trail) (arrivals : List Arrival) :
    ∃ steps, (arrivals.foldl (Trail.add net) t).directory = t.directory.after steps := by
  induction arrivals generalizing t with
  | nil => exact ⟨[], rfl⟩
  | cons a rest ih =>
    obtain ⟨steps, hrest⟩ := ih (t.add net a)
    refine ⟨net.meanwhile t.messages ++ steps, ?_⟩
    rw [List.foldl_cons, hrest]
    exact List.foldl_append.symm

/-- A sequence of actions leaves the trail of what it treats. -/
theorem trail_performAll {w : Downlink} (h : w.state.directory.registry.Apart)
    (actions : List Action) :
    (w.performAll net actions).trail =
      (actions.filterMap Action.arrival?).foldl (Trail.add net) w.trail := by
  -- The primary controller stays apart, because an action only takes steps in the directory.
  induction actions generalizing w with
  | nil => rfl
  | cons action rest ih =>
    have hperform : (w.perform net action).trail = _ := trail_perform h action
    obtain ⟨steps, hsteps⟩ := Trail.directory_foldl net w.trail action.arrival?.toList
    have hapart : (w.perform net action).trail.directory.registry.Apart := by
      rw [hperform, hsteps]
      exact Directory.apart_after h steps
    rw [performAll_cons, ih hapart, hperform, List.filterMap_cons]
    cases action.arrival? <;> rfl

/-! ## Whole runs -/

theorem after_meanwhile (net : Network) (d : Directory) (n : Nat) :
    (d.after ((List.range n).flatMap net.meanwhile)).after (net.meanwhile n) =
      net.directoryAt d n := by
  unfold Network.directoryAt Directory.after
  rw [List.range_succ, List.flatMap_append, List.foldl_append, List.flatMap_singleton]

/-- The directory that is found for a message is the one at the start after all that others did
before that message. -/
theorem Trail.passedOn_foldl {t : Trail}
    (ht : t.directory = d.after ((List.range t.messages).flatMap net.meanwhile))
    (arrivals : List Arrival) :
    (arrivals.foldl (Trail.add net) t).passedOn =
      t.passedOn ++ fannedOut net d t.messages arrivals := by
  -- On the arrivals, with the trail at any message: the hypothesis says how far the directory has
  -- come.
  induction arrivals generalizing t with
  | nil => exact (List.append_nil t.passedOn).symm
  | cons a rest ih =>
    have hfound : t.directory.after (net.meanwhile t.messages) = net.directoryAt d t.messages := by
      rw [ht, after_meanwhile]
    have hadd : t.add net a =
        ⟨net.directoryAt d t.messages, t.messages + 1,
          t.passedOn ++ (recipientsAt net d t.messages a).map (·, a.bytes)⟩ := by
      unfold Trail.add
      rw [hfound]
      rfl
    rw [List.foldl_cons, hadd, ih rfl, fannedOut_cons, List.append_assoc]

/-- What a run sends to others than the primary controller is what its arrivals call for. -/
theorem passedOn_run (c : Config) {state : State} (hstate : state.directory.Reachable)
    (created : Nat) (net : Network) (started : Nat) (iterations : List Iteration) :
    passedOn state.primary ((start c state created).run net started iterations).1.course.sent =
      fannedOut net state.directory 0 (arrivals {} iterations) := by
  have htrail : ((start c state created).run net started iterations).1.trail =
      (arrivals {} iterations).foldl (Trail.add net) ⟨state.directory, 0, []⟩ := by
    rw [run_eq_performAll, ← filterMap_arrival?_actions {} started iterations]
    exact trail_performAll hstate.apart (actions {} started iterations)
  -- The primary controller at the end is the one at the start.
  obtain ⟨steps, hsteps⟩ :=
    Trail.directory_foldl net ⟨state.directory, 0, []⟩ (arrivals {} iterations)
  have hprimary := congrArg (fun t : Trail => t.directory.registry.primary) htrail
  simp only [hsteps, Directory.primary_after] at hprimary
  have hpassed := congrArg Trail.passedOn htrail
  rw [Trail.passedOn_foldl rfl, List.nil_append] at hpassed
  rw [← hpassed]
  exact congrArg (passedOn · _) hprimary.symm

theorem addressedTo_course (target : SocketAddress) (w : Downlink) :
    addressedTo target w.course.sent = datagramsTo target w.sent := by
  unfold addressedTo datagramsTo course
  rw [List.filter_map, List.map_map]
  rfl

/-- What is for one of the others is among what is for others. -/
theorem addressedTo_passedOn {primary client : SocketAddress} (h : client ≠ primary)
    (sent : List (SocketAddress × Bytes)) :
    addressedTo client (passedOn primary sent) = addressedTo client sent := by
  unfold addressedTo passedOn
  rw [List.filter_filter]
  congr 1
  refine List.filter_congr fun s _ => ?_
  by_cases hs : s.1 = client
  · simp [hs, h]
  · simp [hs]

/-- If none of its datagrams is refused, a target receives all that is for it. -/
theorem receivedBy_of_delivered {target : SocketAddress} {sent : Array SendAttempt}
    (h : ∀ s ∈ sent, s.target = target → s.delivery = .delivered) :
    receivedBy target sent = datagramsTo target sent := by
  unfold receivedBy datagramsTo
  congr 1
  refine List.filter_congr fun s hs => ?_
  by_cases htarget : s.target = target
  · simp [htarget, h s (Array.mem_toList_iff.1 hs) htarget]
  · simp [htarget]

/-- **Everyone gets what concerns them, once, and nobody else's failures matter.** Each frame, and
what is taken in of each injected datagram, is handed over once for each client that it concerns
when it comes in, and for nobody else; bulk data and wrong checksums make no difference. No client
is served twice, the primary controller is no client, and what is injected is for all clients. The
same datagrams are handed over in the same order whatever becomes of each. So what a client is sent
is what is routed to it, and it gets all of that if none of its datagrams is refused; and the
primary controller is sent nothing but batches.

The directory is any that can come about while the relay runs, and others may change it between the
messages. An empty datagram brings nothing to hand over. -/
theorem arrivals_fanned_out_exactly (c : Config) (state : State)
    (hstate : state.directory.Reachable) (created : Nat) (net : Network) (started : Nat)
    (iterations : List Iteration) :
    let d := state.directory
    let arrived := arrivals {} iterations
    let w := ((start c state created).run net started iterations).1
    passedOn state.primary w.course.sent = fannedOut net d 0 arrived ∧
    (∀ n a, (recipientsAt net d n a).Nodup ∧ state.primary ∉ recipientsAt net d n a) ∧
    (∀ n bytes micros,
      recipientsAt net d n (.injected bytes micros) = (net.directoryAt d n).clients) ∧
    (∀ delivery,
      ((start c state created).run { net with delivery } started iterations).1.course.sent =
        w.course.sent) ∧
    (∀ client ≠ state.primary,
      datagramsTo client w.sent = routedTo net d client arrived ∧
      ((∀ s ∈ w.sent, s.target = client → s.delivery = .delivered) →
        receivedBy client w.sent = routedTo net d client arrived)) ∧
    ∃ batches : List (List Bytes),
      batches.flatten = collected c.bulkTransferIds c.aggregateMaxPayload.toNat arrived ∧
        Aggregate.Batched c.aggregateMaxPayload.toNat batches
          (datagramsTo state.primary w.sent) := by
  intro d arrived w
  have hpassed : passedOn state.primary w.course.sent = fannedOut net d 0 arrived :=
    passedOn_run c hstate created net started iterations
  -- What is for one client is a part of what is passed on, which is known as a whole.
  have hclient {client : SocketAddress} (hne : client ≠ state.primary) :
      datagramsTo client w.sent = routedTo net d client arrived := by
    rw [← addressedTo_course, ← addressedTo_passedOn hne, hpassed, addressedTo_fannedOut]
  refine ⟨hpassed, ?_, recipientsAt_injected, ?_, ?_,
    batches_of_run c hstate created net started iterations⟩
  · intro n a
    exact ⟨nodup_recipientsAt net d n a, primary_notMem_recipientsAt hstate.apart n a⟩
  -- Two networks that differ only in what becomes of datagrams lead to the same course.
  · intro delivery
    have halike : Network.Alike { net with delivery } net := ⟨rfl, rfl⟩
    exact congrArg Course.sent (run_congr halike (start c state created) started iterations)
  · intro client hne
    refine ⟨hclient hne, fun hdelivered => ?_⟩
    rw [receivedBy_of_delivered hdelivered, hclient hne]

/-! ## A run with three clients -/

/-- A request for the parameters of component 1 of system 1. -/
def requestFrame : Bytes := [0xFE, 2, 0, 1, 1, 21, 1, 1, 0, 0]

/-- The client of system 1, and one without a system of its own. -/
def earlyClients : Directory :=
  (Directory.empty (.v4 ⟨10, 0, 0, 1⟩ 14550) 10).after
    [.contact (.v4 ⟨10, 0, 0, 2⟩ 14551) 0, .learn 1 1 (.v4 ⟨10, 0, 0, 2⟩ 14551),
      .contact (.v4 ⟨10, 0, 0, 3⟩ 14551) 0]

/-- A network that takes datagrams for the second client only. A third client registers in
between. -/
def partialNetwork : Network where
  delivery _ target :=
    if target = .v4 ⟨10, 0, 0, 3⟩ 14551 then .delivered else .failed "unreachable" 0
  wallMicros _ := 0
  meanwhile n := if n = 2 then [.contact (.v4 ⟨10, 0, 0, 4⟩ 14551) 0] else []

/-- Two frames for different clients come in and a datagram for injection. -/
def routedRun : List Iteration :=
  [⟨false, 0, .ready 10 (some (.received (shortFrame ++ requestFrame) 7)) [⟨[1, 2, 3], 8⟩] none⟩]

theorem routed_run_fanned_out :
    earlyClients.Reachable ∧
      passedOn (.v4 ⟨10, 0, 0, 1⟩ 14550)
          ((start {} { directory := earlyClients } 0).run partialNetwork 0
            routedRun).1.course.sent =
        [(.v4 ⟨10, 0, 0, 2⟩ 14551, shortFrame), (.v4 ⟨10, 0, 0, 3⟩ 14551, shortFrame),
          (.v4 ⟨10, 0, 0, 2⟩ 14551, requestFrame),
          (.v4 ⟨10, 0, 0, 2⟩ 14551, [1, 2, 3]), (.v4 ⟨10, 0, 0, 3⟩ 14551, [1, 2, 3]),
          (.v4 ⟨10, 0, 0, 4⟩ 14551, [1, 2, 3])] ∧
      receivedBy (.v4 ⟨10, 0, 0, 3⟩ 14551)
          ((start {} { directory := earlyClients } 0).run partialNetwork 0 routedRun).1.sent =
        [shortFrame, [1, 2, 3]] := by
  have hreachable : earlyClients.Reachable := ⟨_, _, _, rfl⟩
  obtain ⟨hpassed, -, -, -, hclients, -⟩ :=
    arrivals_fanned_out_exactly {} { directory := earlyClients } hreachable 0 partialNetwork 0
      routedRun
  have hreceived := (hclients (.v4 ⟨10, 0, 0, 3⟩ 14551) (by decide)).2 (by decide +kernel)
  exact ⟨hreachable, hpassed.trans (by decide +kernel), hreceived.trans (by decide +kernel)⟩

end Downlink

end VehicleLink
