import Mathlib.Algebra.BigOperators.Group.List.Basic
import Mathlib.Data.List.Induction
import VehicleLink.Proofs.Counters
import VehicleLink.Proofs.Streams
import VehicleLink.Report

/-!
# Counting and reporting in any order

Three threads have a hand in the statistics, and each of them holds a lock for one small thing at a
time. The workers make entries: they add to a counter, publish what was counted, or take note of a
frame. The reporter takes the counters and the gaps out, one kind after the other, and only then is
its report complete; between two of its steps, or between an entry and the publication of it,
anything may happen. Whatever the order, nothing is lost and nothing is told twice
(`uplinkTotal_after`, `downlinkTotal_after`, `gapsTotal_after`).

* `Accounts.post` : one entry.
* `Reporting.collect` : the reporter's next step; four in a row are `Reporter.collect`
  (`collect_undisturbed`).
-/

namespace VehicleLink

/-- What was counted and not reported yet, as far as it is not the reporter's. -/
structure Accounts where
  streams : Streams := ∅
  uplink : UplinkCounters := {}
  downlink : DownlinkCounters := {}
  /-- What the downlink worker did not add to the shared counters yet. -/
  pending : DownlinkCounters := {}
deriving DecidableEq

namespace Accounts

/-- What a worker does to the accounts while it holds a lock, or on its own. -/
inductive Entry where
  | countUplink (events : UplinkCounters)
  /-- The downlink worker counts on its own. -/
  | count (events : DownlinkCounters)
  | publish
  | observe (source : Source) (sequence : UInt8) (checksumOk : Bool)
deriving DecidableEq, Repr

namespace Entry

/-- Whether it is the uplink worker that makes the entry. -/
def isUplink : Entry → Bool
  | countUplink _ => true
  | _ => false

/-- What the entry counts on the way to the vehicle. -/
def uplink : Entry → UplinkCounters
  | countUplink events => events
  | _ => 0

/-- What the entry counts on the way from the vehicle. -/
def downlink : Entry → DownlinkCounters
  | count events => events
  | _ => 0

end Entry

/-- The accounts after an entry. -/
def post (a : Accounts) : Entry → Accounts
  | .countUplink events => { a with uplink := a.uplink + events }
  | .count events => { a with pending := a.pending + events }
  | .publish => { a with downlink := a.downlink + a.pending, pending := {} }
  | .observe source sequence checksumOk =>
    { a with streams := a.streams.observe source sequence checksumOk }

/-- The accounts after some entries, in order. -/
def postAll (a : Accounts) (entries : List Entry) : Accounts := entries.foldl post a

theorem postAll_append (a : Accounts) (first second : List Entry) :
    a.postAll (first ++ second) = (a.postAll first).postAll second :=
  List.foldl_append

/-- Publishing moves what was counted, and all other entries only add to it. -/
theorem downlink_postAll (a : Accounts) (entries : List Entry) :
    (a.postAll entries).downlink + (a.postAll entries).pending =
      a.downlink + a.pending + (entries.map Entry.downlink).sum := by
  -- Of one entry first. Publishing leaves the sum as it is, as what is pending only moves.
  have hpost (b : Accounts) (e : Entry) :
      (b.post e).downlink + (b.post e).pending = b.downlink + b.pending + e.downlink := by
    cases e with
    | count events => exact (add_assoc ..).symm
    | publish | countUplink | observe => rfl
  induction entries generalizing a with
  | nil => exact (add_zero _).symm
  | cons e rest ih =>
    rw [List.map_cons, List.sum_cons, ← add_assoc, ← hpost]
    exact ih (a.post e)

end Accounts

/-! ## The reporter -/

/-- What the reporter holds of the report that it makes. -/
inductive Draft where
  | none
  /-- It took the counters of the uplink worker. -/
  | uplinkTaken (elapsed : Nat) (uplink : UplinkCounters)
  /-- And then those of the downlink worker. -/
  | downlinkTaken (elapsed : Nat) (uplink : UplinkCounters) (downlink : DownlinkCounters)
  /-- And then the gaps. Only the number of clients is missing. -/
  | gapsTaken (elapsed : Nat) (uplink : UplinkCounters) (downlink : DownlinkCounters)
    (gaps : List (Source × Nat))
deriving DecidableEq

namespace Draft

/-- The counters of the uplink worker that the reporter holds. -/
def uplink : Draft → UplinkCounters
  | none => 0
  | uplinkTaken _ uplink | downlinkTaken _ uplink _ | gapsTaken _ uplink _ _ => uplink

/-- The counters of the downlink worker that the reporter holds. -/
def downlink : Draft → DownlinkCounters
  | downlinkTaken _ _ downlink | gapsTaken _ _ downlink _ => downlink
  | _ => 0

/-- The gaps that the reporter holds. -/
def gaps : Draft → List (Source × Nat)
  | gapsTaken _ _ _ gaps => gaps
  | _ => []

end Draft

/-- What the threads share of the statistics, with the reporter at work on it. -/
structure Reporting where
  directory : Directory
  accounts : Accounts := {}
  reporter : Reporter
  draft : Draft := .none
  reports : List Report := []
deriving DecidableEq

namespace Reporting

/-- The state that the reporter finds. -/
def state (r : Reporting) : State where
  directory := r.directory
  streams := r.accounts.streams
  uplink := r.accounts.uplink
  downlink := r.accounts.downlink

/-- The reporter's next step. The time matters only to the first one of a report. -/
def collect (r : Reporting) (now : Nat) : Reporting :=
  match r.draft with
  | .none =>
    { r with
      reporter := { lastReport := now }
      draft := .uplinkTaken (Duration.between r.reporter.lastReport now) r.accounts.uplink
      accounts := { r.accounts with uplink := {} } }
  | .uplinkTaken elapsed uplink =>
    { r with
      draft := .downlinkTaken elapsed uplink r.accounts.downlink
      accounts := { r.accounts with downlink := {} } }
  | .downlinkTaken elapsed uplink downlink =>
    { r with
      draft := .gapsTaken elapsed uplink downlink r.accounts.streams.unreported
      accounts := { r.accounts with streams := r.accounts.streams.markReported } }
  | .gapsTaken elapsed uplink downlink gaps =>
    { r with
      draft := .none
      reports := r.reports ++
        [{ elapsed, uplink, downlink, gaps, clients := r.directory.registry.clients.size }] }

/-- If nobody comes in between, the steps of a report are `Reporter.collect`. -/
theorem collect_undisturbed (r : Reporting) (hdraft : r.draft = .none) (now : Nat)
    (later : Nat × Nat × Nat) :
    let done := (((r.collect now).collect later.1).collect later.2.1).collect later.2.2
    let (report, reporter, state) := r.reporter.collect r.state now
    done.reports = r.reports ++ [report] ∧ done.reporter = reporter ∧ done.state = state ∧
      done.draft = .none ∧ done.accounts.pending = r.accounts.pending := by
  obtain ⟨directory, accounts, reporter, draft, reports⟩ := r
  cases hdraft
  exact ⟨rfl, rfl, rfl, rfl, rfl⟩

/-- What is done while one lock is held. -/
inductive Step where
  | post (entry : Accounts.Entry)
  /-- Something is done to the clients or to the routes. -/
  | directory (step : Directory.Step)
  | collect (now : Nat)
deriving DecidableEq, Repr

/-- What the threads share after a step. -/
def apply (r : Reporting) : Step → Reporting
  | .post entry => { r with accounts := r.accounts.post entry }
  | .directory step => { r with directory := r.directory.apply step }
  | .collect now => r.collect now

/-- What they share after some steps, in order. -/
def after (r : Reporting) (steps : List Step) : Reporting := steps.foldl apply r

theorem after_concat (r : Reporting) (steps : List Step) (step : Step) :
    r.after (steps ++ [step]) = (r.after steps).apply step := by
  unfold after
  rw [List.foldl_append]
  rfl

/-- The entry that a step makes, if it makes one. -/
def Step.entry? : Step → Option Accounts.Entry
  | post entry => some entry
  | _ => none

/-- The entries that are made in some steps, in order. -/
def entries (steps : List Step) : List Accounts.Entry := steps.filterMap Step.entry?

theorem entries_concat (steps : List Step) (step : Step) :
    entries (steps ++ [step]) = entries steps ++ step.entry?.toList := by
  unfold entries
  rw [List.filterMap_append]
  cases h : step.entry? <;> simp [h]

/-! ## What was counted is somewhere

The totals put together what the reports tell, what the reporter holds, what is in the shared
counters and what is in the worker's own. A step of the reporter moves something from one of these
places to the next; an entry that counts adds to one of them; publishing moves it on. -/

/-- What was counted on the way to the vehicle, wherever it is by now. -/
def uplinkTotal (r : Reporting) : UplinkCounters :=
  (r.reports.map Report.uplink).sum + r.draft.uplink + r.accounts.uplink

/-- What was counted on the way from the vehicle, wherever it is by now. -/
def downlinkTotal (r : Reporting) : DownlinkCounters :=
  (r.reports.map Report.downlink).sum + r.draft.downlink + r.accounts.downlink + r.accounts.pending

/-- The gaps of a source that the reports tell of, the unfinished one included. -/
def gapsReported (source : Source) (r : Reporting) : Nat :=
  ((r.reports.map Report.gaps ++ [r.draft.gaps]).map (Streams.reportedOf source)).sum

variable (r : Reporting) (steps : List Step) (source : Source)

/-- The reporter moves what was counted on the way to the vehicle, and loses none of it. -/
theorem uplinkTotal_collect (now : Nat) : (r.collect now).uplinkTotal = r.uplinkTotal := by
  obtain ⟨directory, accounts, reporter, draft, reports⟩ := r
  unfold uplinkTotal
  cases draft with
  | none =>
    show (reports.map Report.uplink).sum + accounts.uplink + 0 =
      (reports.map Report.uplink).sum + 0 + accounts.uplink
    rw [add_zero, add_zero]
  | uplinkTaken | downlinkTaken => rfl
  -- The report is complete: what it held goes from the draft to the reports.
  | gapsTaken elapsed uplink downlink gaps =>
    simp only [collect, List.map_append, List.map_cons, List.map_nil, List.sum_append,
      List.sum_cons, List.sum_nil, Draft.uplink, add_zero]

theorem downlinkTotal_collect (now : Nat) : (r.collect now).downlinkTotal = r.downlinkTotal := by
  obtain ⟨directory, accounts, reporter, draft, reports⟩ := r
  unfold downlinkTotal
  cases draft with
  | none | downlinkTaken => rfl
  -- The place that the counters are taken from is left with nothing.
  | uplinkTaken elapsed uplink =>
    show (reports.map Report.downlink).sum + accounts.downlink + 0 + accounts.pending =
      (reports.map Report.downlink).sum + 0 + accounts.downlink + accounts.pending
    rw [add_zero, add_zero]
  | gapsTaken elapsed uplink downlink gaps =>
    simp only [collect, List.map_append, List.map_cons, List.map_nil, List.sum_append,
      List.sum_cons, List.sum_nil, Draft.downlink, add_zero]

theorem uplinkTotal_apply (step : Step) :
    (r.apply step).uplinkTotal = r.uplinkTotal + step.entry?.elim 0 Accounts.Entry.uplink := by
  cases step with
  | directory => exact (add_zero _).symm
  | collect now => exact (r.uplinkTotal_collect now).trans (add_zero _).symm
  | post entry =>
    cases entry with
    | countUplink events => exact (add_assoc ..).symm
    | count | publish | observe => exact (add_zero _).symm

theorem downlinkTotal_apply (step : Step) :
    (r.apply step).downlinkTotal =
      r.downlinkTotal + step.entry?.elim 0 Accounts.Entry.downlink := by
  cases step with
  | directory => exact (add_zero _).symm
  | collect now => exact (r.downlinkTotal_collect now).trans (add_zero _).symm
  | post entry =>
    cases entry with
    | count events => exact (add_assoc ..).symm
    | publish =>
      show (r.reports.map Report.downlink).sum + r.draft.downlink +
        (r.accounts.downlink + r.accounts.pending) + 0 = r.downlinkTotal + 0
      rw [← add_assoc]
      rfl
    | countUplink | observe => exact (add_zero _).symm

/-- All that is counted in some steps, and nothing else, is added to the total. -/
theorem uplinkTotal_after :
    (r.after steps).uplinkTotal =
      r.uplinkTotal + ((entries steps).map Accounts.Entry.uplink).sum := by
  -- On the last step, as the totals are those after all of them.
  induction steps using List.reverseRecOn with
  | nil => exact (add_zero _).symm
  | append_singleton steps step ih =>
    rw [after_concat, uplinkTotal_apply, ih, entries_concat, List.map_append, List.sum_append,
      add_assoc]
    cases step.entry? <;> simp

theorem downlinkTotal_after :
    (r.after steps).downlinkTotal =
      r.downlinkTotal + ((entries steps).map Accounts.Entry.downlink).sum := by
  induction steps using List.reverseRecOn with
  | nil => exact (add_zero _).symm
  | append_singleton steps step ih =>
    rw [after_concat, downlinkTotal_apply, ih, entries_concat, List.map_append, List.sum_append,
      add_assoc]
    cases step.entry? <;> simp

/-- A report is begun before what was counted is published. It tells of it all the same, because the
reporter comes to the downlink worker's counters later. -/
example :
    let r :=
      ({ directory := .empty (.v4 ⟨10, 0, 0, 1⟩ 14550) 10, reporter := ⟨0⟩ } : Reporting).after
      [.post (.count { frames := 2 }), .collect 5, .post .publish, .collect 5,
        .post (.count { frames := 1 }), .collect 5, .collect 5]
    r.reports.map Report.downlink = [{ frames := 2 }] ∧ r.accounts.pending = { frames := 1 } := by
  decide +kernel

/-- Whatever the step, a source has as many gaps as were reported and are to be reported, if it had
before. -/
theorem gaps_apply (step : Step)
    (h : r.gapsReported source + r.accounts.streams.unreportedOf source =
      r.accounts.streams.gapsOf source) :
    (r.apply step).gapsReported source + (r.apply step).accounts.streams.unreportedOf source =
      (r.apply step).accounts.streams.gapsOf source := by
  obtain ⟨directory, accounts, reporter, draft, reports⟩ := r
  cases step with
  | directory => exact h
  | post entry =>
    cases entry with
    | countUplink | count | publish => exact h
    | observe sender sequence checksumOk =>
      -- What a frame adds to the gaps of its source it adds to those that are to be reported.
      show _ + (accounts.streams.observe sender sequence checksumOk).unreportedOf source =
        (accounts.streams.observe sender sequence checksumOk).gapsOf source
      rw [Streams.unreportedOf_observe, Streams.gapsOf_observe, ← h, ← Nat.add_assoc]
      rfl
  | collect now =>
    -- A draft without gaps tells of none.
    have hnothing : Streams.reportedOf source [] = 0 := rfl
    cases draft with
    | none | uplinkTaken => exact h
    | downlinkTaken =>
      simp only [apply, collect, gapsReported, Draft.gaps, List.map_append, List.map_cons,
        List.map_nil, List.sum_append, List.sum_cons, List.sum_nil, hnothing,
        Streams.reportedOf_unreported,
        Streams.unreportedOf_markReported, Streams.gapsOf_markReported] at h ⊢
      omega
    | gapsTaken =>
      simp only [apply, collect, gapsReported, Draft.gaps, List.map_append, List.map_cons,
        List.map_nil, List.sum_append, List.sum_cons, List.sum_nil, hnothing] at h ⊢
      omega

/-- No step loses a gap or tells of it twice. -/
theorem gaps_after
    (h : r.gapsReported source + r.accounts.streams.unreportedOf source =
      r.accounts.streams.gapsOf source) :
    (r.after steps).gapsReported source + (r.after steps).accounts.streams.unreportedOf source =
      (r.after steps).accounts.streams.gapsOf source := by
  induction steps using List.reverseRecOn with
  | nil => exact h
  | append_singleton steps step ih =>
    rw [after_concat]
    exact gaps_apply _ source step ih

/-- Only the downlink worker has a hand in what is pending. -/
theorem pending_after :
    (r.after steps).accounts.pending =
      (r.accounts.postAll ((entries steps).filter fun e => !e.isUplink)).pending := by
  induction steps using List.reverseRecOn with
  | nil => rfl
  | append_singleton steps step ih =>
    rw [after_concat, entries_concat, List.filter_append, Accounts.postAll_append]
    cases step with
    | directory => exact ih
    | collect now =>
      -- The reporter takes nothing that is pending.
      refine Eq.trans ?_ ih
      show ((r.after steps).collect now).accounts.pending = _
      unfold collect
      split <;> rfl
    | post entry =>
      cases entry with
      | countUplink | observe => exact ih
      | count events => exact congrArg (· + events) ih
      | publish => rfl

end Reporting

end VehicleLink
