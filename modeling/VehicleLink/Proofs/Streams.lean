import Mathlib.Algebra.GroupWithZero.Nat
import Mathlib.Data.List.Induction
import Mathlib.Data.List.Nodup
import Mathlib.Data.List.TakeWhile
import VehicleLink.Proofs.Table
import VehicleLink.Streams

/-!
# Gaps follow a source's own frames

What is known about a stream can be told from the frames of its source alone: their numbers from the
first one with a right checksum on (`numbersOf`). The last of them is the number that the stream
remembers, and its gaps are the places where a number does not follow on the one before (`gapsIn`).
Reporting takes place at any time in between and moves gaps from the unreported ones into a report;
none is lost and none is told twice (`gaps_follow_own_frames`).

* `get?_observe_of_some`, `get?_observe_of_none`, `gapsOf_observe`, `unreportedOf_observe` : one
  frame.
* `reportedOf_unreported` : one report.
* `numbersOf_observe`, `gapsIn_concat` : the history, one frame longer.
-/

namespace VehicleLink

namespace Source

/-- Sources in the order of their systems, and those of a system in the order of their
components. -/
def Before (a b : Source) : Prop :=
  a.system < b.system ∨ a.system = b.system ∧ a.component < b.component

theorem le_eq_true_iff {a b : Source} : a.le b = true ↔ a.Before b ∨ a = b := by
  obtain ⟨system, component⟩ := a
  obtain ⟨system', component'⟩ := b
  simp only [le, Before, Bool.or_eq_true, Bool.and_eq_true, decide_eq_true_eq, beq_iff_eq,
    Source.mk.injEq, UInt8.lt_iff_toNat_lt, UInt8.le_iff_toNat_le, ← UInt8.toNat_inj]
  omega

theorem le_trans (a b c : Source) (hab : a.le b = true) (hbc : b.le c = true) : a.le c = true := by
  simp only [le, Bool.or_eq_true, Bool.and_eq_true, decide_eq_true_eq, beq_iff_eq,
    UInt8.lt_iff_toNat_lt, UInt8.le_iff_toNat_le, ← UInt8.toNat_inj] at *
  omega

theorem le_total (a b : Source) : (a.le b || b.le a) = true := by
  simp only [le, Bool.or_eq_true, Bool.and_eq_true, decide_eq_true_eq, beq_iff_eq,
    UInt8.lt_iff_toNat_lt, UInt8.le_iff_toNat_le, ← UInt8.toNat_inj]
  omega

end Source

namespace Streams

/-! ## One frame

A frame touches the stream of its own source only. It opens the stream if there is none, provided
that its checksum is right; afterwards any frame advances it. -/

/-- The gaps of a source so far, none if it is not followed. -/
def gapsOf (s : Streams) (source : Source) : Nat := (s.get? source).elim 0 Stream.gaps

/-- The gaps of a source that were not reported yet. -/
def unreportedOf (s : Streams) (source : Source) : Nat := (s.get? source).elim 0 Stream.unreported

variable (s : Streams) (source : Source) (sequence : UInt8) (checksumOk : Bool) (other : Source)

/-- A frame of a source that is followed advances its stream, and no other. -/
theorem get?_observe_of_some {stream : Stream} (h : s.get? source = some stream) :
    (s.observe source sequence checksumOk).get? other =
      if other = source then some (stream.advance sequence) else s.get? other := by
  have hknown : s.table.contains source = true := Option.isSome_iff_exists.2 ⟨stream, h⟩
  show Table.get? _ other = _
  -- The table has an entry to change and gets no new one.
  rw [observe, if_pos hknown, Table.get?_modify]
  split
  · rename_i heq
    rw [heq, show s.table.get? source = some stream from h, Option.map_some]
  · rfl

/-- A frame of a source that is not followed opens a stream if its checksum is right, and else does
nothing. -/
theorem get?_observe_of_none (h : s.get? source = none) :
    (s.observe source sequence checksumOk).get? other =
      if other = source ∧ checksumOk = true then some { last := sequence } else s.get? other := by
  -- A source without a stream: a right checksum opens one, and a wrong one is passed over.
  have hnew : s.table.contains source = false :=
    Option.isSome_eq_false_iff.2 (Option.isNone_iff_eq_none.2 h)
  show Table.get? _ other = _
  rw [observe, if_neg (by rw [hnew]; decide)]
  cases checksumOk with
  | true =>
    rw [if_pos rfl, Table.get?_insertIfNew, show s.table.get? source = none from h,
      Option.getD_none]
    simp only [and_true]
    rfl
  | false => simp only [Bool.false_eq_true, if_false, and_false]; rfl

/-- A number that grows with each gap, and is zero when a stream is opened, tells the gap of a
frame. -/
theorem elim_observe {f : Stream → Nat} (hopened : ∀ number, f { last := number } = 0)
    (hadvance : ∀ stream number, f (stream.advance number) =
      f stream + if stream.isGap number = true then 1 else 0) :
    ((s.observe source sequence checksumOk).get? other).elim 0 f =
      (s.get? other).elim 0 f +
        if other = source ∧ s.isGap source sequence = true then 1 else 0 := by
  unfold isGap
  cases h : s.get? source with
  | some stream =>
    rw [get?_observe_of_some s source sequence checksumOk other h]
    by_cases hother : other = source
    · subst hother
      simp only [if_true, h, Option.elim_some, hadvance, Option.any_some, true_and]
    · simp only [hother, if_false, false_and, Nat.add_zero]
  | none =>
    -- Whether or not the frame opens the stream, it leaves no gap.
    rw [get?_observe_of_none s source sequence checksumOk other h]
    simp only [Option.any_none, Bool.false_eq_true, and_false, if_false, Nat.add_zero]
    split
    · rename_i hopens
      rw [hopens.1, h, Option.elim_some, Option.elim_none, hopened]
    · rfl

theorem gapsOf_observe :
    (s.observe source sequence checksumOk).gapsOf other =
      s.gapsOf other + if other = source ∧ s.isGap source sequence = true then 1 else 0 :=
  elim_observe s source sequence checksumOk other (fun _ => rfl) fun _ _ => rfl

theorem unreportedOf_observe :
    (s.observe source sequence checksumOk).unreportedOf other =
      s.unreportedOf other + if other = source ∧ s.isGap source sequence = true then 1 else 0 :=
  elim_observe s source sequence checksumOk other (fun _ => rfl) fun _ _ => rfl

/-! ## One report -/

/-- The gaps that a report tells of a source. -/
def reportedOf (source : Source) (report : List (Source × Nat)) : Nat :=
  ((report.filter fun e => e.1 = source).map Prod.snd).sum

/-- A report lists the sources with gaps that were not reported yet, each with their number. -/
theorem mem_unreported {n : Nat} :
    (source, n) ∈ s.unreported ↔
      0 < n ∧ ∃ stream, s.get? source = some stream ∧ stream.unreported = n := by
  simp only [unreported, List.mem_mergeSort, List.mem_filter, List.mem_map, decide_eq_true_eq, get?,
    Table.get?_eq_some_iff]
  constructor
  · rintro ⟨⟨⟨source', stream⟩, hmem, heq⟩, hpos⟩
    cases heq
    exact ⟨hpos, stream, hmem, rfl⟩
  · rintro ⟨hpos, stream, hmem, rfl⟩
    exact ⟨⟨(source, stream), hmem, rfl⟩, hpos⟩

/-- No source is listed twice. -/
theorem nodup_unreported : (s.unreported.map Prod.fst).Nodup := by
  have hperm := List.mergeSort_perm
    ((s.table.entries.map fun e => (e.1, e.2.unreported)).filter fun e => 0 < e.2)
    fun a b => a.1.le b.1
  -- Sorting and leaving out add no entry to those of the table, whose keys are distinct.
  refine (hperm.map Prod.fst).nodup_iff.2 (List.Nodup.sublist (List.filter_sublist.map Prod.fst) ?_)
  rw [List.map_map]
  exact s.table.distinct

/-- A report lists the sources in order, each with at least one gap. -/
theorem ordered_unreported :
    (∀ e ∈ s.unreported, 0 < e.2) ∧ s.unreported.Pairwise fun a b => a.1.Before b.1 := by
  refine ⟨fun e he => ((mem_unreported s e.1).1 he).1, ?_⟩
  have hsorted : s.unreported.Pairwise fun a b => a.1.le b.1 = true :=
    List.pairwise_mergeSort (fun a b c => Source.le_trans a.1 b.1 c.1)
      (fun a b => Source.le_total a.1 b.1) _
  have hdistinct : s.unreported.Pairwise fun a b => a.1 ≠ b.1 :=
    List.pairwise_map.1 s.nodup_unreported
  refine (hsorted.and hdistinct).imp fun {a b} h => ?_
  exact (Source.le_eq_true_iff.1 h.1).resolve_right h.2

/-- A report tells of each source exactly what was not reported yet. -/
theorem reportedOf_unreported : reportedOf source s.unreported = s.unreportedOf source := by
  have hlisted (n : Nat) (h : (source, n) ∈ s.unreported) :
      (s.unreported.filter fun e => e.1 = source) = [(source, n)] := by
    have hnodup : s.unreported.Nodup := List.Nodup.of_map Prod.fst s.nodup_unreported
    rw [← List.perm_singleton,
      List.perm_ext_iff_of_nodup (hnodup.filter _) (List.nodup_singleton _)]
    -- Two entries of the source would be two lines of the report with one key.
    intro e
    simp only [List.mem_filter, decide_eq_true_eq, List.mem_singleton]
    constructor
    · rintro ⟨he, hsource⟩
      exact List.inj_on_of_nodup_map s.nodup_unreported he h hsource
    · rintro rfl
      exact ⟨h, rfl⟩
  unfold reportedOf
  by_cases hpos : 0 < s.unreportedOf source
  · have hmem : (source, s.unreportedOf source) ∈ s.unreported := by
      rw [mem_unreported]
      refine ⟨hpos, ?_⟩
      unfold unreportedOf at hpos ⊢
      cases hstream : s.get? source with
      | none => simp [hstream] at hpos
      | some stream => exact ⟨stream, rfl, rfl⟩
    -- The one line of the source tells its number.
    rw [hlisted _ hmem]
    simp
  -- Whoever has nothing to report has no line.
  · have hnone : (s.unreported.filter fun e => e.1 = source) = [] := by
      rw [List.filter_eq_nil_iff]
      rintro ⟨source', n⟩ he
      rw [decide_eq_true_eq]
      rintro rfl
      obtain ⟨hn, stream, hstream, rfl⟩ := (mem_unreported s source').1 he
      exact hpos (by simpa [unreportedOf, hstream] using hn)
    rw [hnone]
    show 0 = _
    omega

@[simp] theorem get?_markReported :
    s.markReported.get? source =
      (s.get? source).map fun stream => { stream with unreported := 0 } :=
  Table.get?_map ..

@[simp] theorem gapsOf_markReported : s.markReported.gapsOf source = s.gapsOf source := by
  unfold gapsOf
  rw [get?_markReported]
  cases s.get? source <;> rfl

@[simp] theorem unreportedOf_markReported : s.markReported.unreportedOf source = 0 := by
  unfold unreportedOf
  rw [get?_markReported]
  cases s.get? source <;> rfl

/-! ## Frames and reports in any order -/

/-- What is done to the streams, one thing after the other. -/
inductive Call where
  | observe (source : Source) (sequence : UInt8) (checksumOk : Bool)
  /-- The unreported gaps are taken into a report. -/
  | drain
deriving DecidableEq, Repr

/-- What has come of some calls. -/
structure History where
  streams : Streams := ∅
  reports : List (List (Source × Nat)) := []

/-- One more call. -/
def History.perform (h : History) : Call → History
  | .observe source sequence checksumOk =>
    { h with streams := h.streams.observe source sequence checksumOk }
  | .drain => { streams := h.streams.markReported, reports := h.reports ++ [h.streams.unreported] }

/-- What comes of the calls when nothing was followed before. -/
def history (calls : List Call) : History := calls.foldl History.perform {}

/-- The frame that a call takes note of, if it is one of the source: its number, and whether its
checksum is right. -/
def Call.frame? (source : Source) : Call → Option (UInt8 × Bool)
  | observe sender sequence checksumOk =>
    if sender = source then some (sequence, checksumOk) else none
  | drain => none

/-- The numbers of the source's frames, in order, from the first one with a right checksum on. -/
def numbersOf (source : Source) (calls : List Call) : List UInt8 :=
  ((calls.filterMap (Call.frame? source)).dropWhile fun f => !f.2).map Prod.fst

/-- How many of the numbers do not follow on the one before them. -/
def gapsIn (numbers : List UInt8) : Nat :=
  (numbers.zip numbers.tail).countP fun pair => pair.2 ≠ pair.1 + 1

theorem history_concat (calls : List Call) (call : Call) :
    history (calls ++ [call]) = (history calls).perform call := by
  unfold history
  rw [List.foldl_append, List.foldl_cons, List.foldl_nil]

theorem numbersOf_drain (calls : List Call) :
    numbersOf source (calls ++ [.drain]) = numbersOf source calls := by
  unfold numbersOf
  rw [List.filterMap_append, show [Call.drain].filterMap (Call.frame? source) = [] from rfl,
    List.append_nil]

/-- A frame counts if it is one of the source and either has a right checksum or comes after one
that has. -/
theorem numbersOf_observe (calls : List Call) :
    numbersOf other (calls ++ [.observe source sequence checksumOk]) =
      numbersOf other calls ++
        if other = source ∧ (checksumOk = true ∨ numbersOf other calls ≠ []) then [sequence]
        else [] := by
  unfold numbersOf
  rw [List.filterMap_append]
  by_cases hother : other = source
  · subst hother
    simp only [List.filterMap_cons, Call.frame?, if_true, List.filterMap_nil, List.dropWhile_append,
      true_and, List.isEmpty_iff, Ne, List.map_eq_nil_iff]
    split
    · rename_i hnone
      cases checksumOk <;> simp [hnone]
    · rename_i hsome
      simp [hsome]
  · have hsource : source ≠ other := fun h => hother h.symm
    simp [Call.frame?, hsource, hother]

/-- One more number adds a gap if it does not follow on the last one. -/
theorem gapsIn_concat (numbers : List UInt8) :
    gapsIn (numbers ++ [sequence]) =
      gapsIn numbers +
        if numbers.getLast?.any (fun last => sequence != last + 1) = true then 1 else 0 := by
  unfold gapsIn
  induction numbers with
  | nil => rfl
  | cons first rest ih =>
    -- Only the last two numbers matter, and they are both in the rest unless it has but one.
    cases rest with
    | nil => simp [List.countP_cons]
    | cons second rest =>
      simp only [List.cons_append, List.tail_cons, List.zip_cons_cons, List.countP_cons,
        List.getLast?_cons_cons] at ih ⊢
      omega

/-! ## What a source's frames decide -/

/-- The stream remembers the last of the numbers, and there is a stream as soon as there is one. -/
theorem last_history (calls : List Call) :
    ((history calls).streams.get? source).map Stream.last = (numbersOf source calls).getLast? := by
  induction calls using List.reverseRecOn with
  | nil => rfl
  | append_singleton calls call ih =>
    rw [history_concat]
    cases call with
    | drain =>
      rw [numbersOf_drain, ← ih]
      show ((history calls).streams.markReported.get? source).map _ = _
      rw [get?_markReported, Option.map_map]
      rfl
    | observe sender sequence checksumOk =>
      rw [numbersOf_observe]
      show (((history calls).streams.observe sender sequence checksumOk).get? source).map _ = _
      cases hsender : (history calls).streams.get? sender with
      | some stream =>
        rw [get?_observe_of_some _ _ _ _ _ hsender]
        by_cases hsource : source = sender
        · subst hsource
          -- There was a number before, so that the frame counts whatever its checksum.
          have hbefore : numbersOf source calls ≠ [] := by
            intro hnil
            rw [hsender, hnil] at ih
            cases ih
          simp [hbefore, Stream.advance]
        · simpa [hsource] using ih
      | none =>
        rw [get?_observe_of_none _ _ _ _ _ hsender]
        by_cases hsource : source = sender
        · subst hsource
          have hbefore : numbersOf source calls = [] := by
            rw [hsender] at ih
            exact List.getLast?_eq_none_iff.1 ih.symm
          cases checksumOk <;> simp [hbefore, hsender]
        · simpa [hsource] using ih

/-- A frame leaves a gap if its number does not follow on the last one of its source. -/
theorem isGap_history (calls : List Call) :
    (history calls).streams.isGap source sequence =
      (numbersOf source calls).getLast?.any fun last => sequence != last + 1 := by
  rw [← last_history, Option.any_map]
  rfl

/-- The gaps that were counted are those between the numbers of the source. -/
theorem gapsOf_history (calls : List Call) :
    (history calls).streams.gapsOf source = gapsIn (numbersOf source calls) := by
  induction calls using List.reverseRecOn with
  | nil => rfl
  | append_singleton calls call ih =>
    rw [history_concat]
    cases call with
    | drain =>
      rw [numbersOf_drain, ← ih]
      exact gapsOf_markReported _ source
    | observe sender sequence checksumOk =>
      show ((history calls).streams.observe sender sequence checksumOk).gapsOf source = _
      rw [gapsOf_observe, isGap_history, numbersOf_observe, ih]
      by_cases hsource : source = sender
      · subst hsource
        by_cases hbefore : numbersOf source calls = []
        · -- The first frame that counts, and any before it, leaves no gap.
          cases checksumOk <;> simp [hbefore, gapsIn]
        · simp only [true_and, hbefore, ne_eq, not_false_eq_true, or_true, if_true, gapsIn_concat]
      · simp [hsource]

/-- What was reported and what was not make up all gaps. -/
theorem reported_history (calls : List Call) :
    ((history calls).reports.map (reportedOf source)).sum
        + (history calls).streams.unreportedOf source =
      (history calls).streams.gapsOf source := by
  induction calls using List.reverseRecOn with
  | nil => rfl
  | append_singleton calls call ih =>
    rw [history_concat]
    cases call with
    -- What was unreported goes into the report, so that the sum stays.
    | drain =>
      simp only [History.perform, List.map_append, List.map_cons, List.map_nil, List.sum_append,
        List.sum_cons, List.sum_nil, reportedOf_unreported, unreportedOf_markReported,
        gapsOf_markReported]
      omega
    | observe sender sequence checksumOk =>
      simp only [History.perform, unreportedOf_observe, gapsOf_observe]
      omega

/-- There is a number exactly if there was a frame of the source with a right checksum. -/
theorem numbersOf_ne_nil_iff (calls : List Call) :
    numbersOf source calls ≠ [] ↔ ∃ sequence, Call.observe source sequence true ∈ calls := by
  simp only [numbersOf, ne_eq, List.map_eq_nil_iff, List.dropWhile_eq_nil_iff, List.mem_filterMap,
    Bool.not_eq_true', not_forall, Bool.not_eq_false]
  constructor
  · rintro ⟨⟨sequence, checksumOk⟩, ⟨call, hcall, hframe⟩, hok⟩
    cases call with
    | drain => cases hframe
    | observe sender number ok =>
      simp only [Call.frame?, Option.ite_none_right_eq_some, Option.some.injEq,
        Prod.mk.injEq] at hframe
      -- The frame is the one that the call takes note of.
      obtain ⟨rfl, rfl, rfl⟩ := hframe
      exact ⟨number, (show ok = true from hok) ▸ hcall⟩
  · rintro ⟨sequence, hcall⟩
    exact ⟨(sequence, true), ⟨_, hcall, if_pos rfl⟩, rfl⟩

/-- Every report was in order when it was made, and is not touched afterwards. -/
theorem ordered_history (calls : List Call) :
    ∀ report ∈ (history calls).reports,
      (∀ e ∈ report, 0 < e.2) ∧ report.Pairwise fun a b => a.1.Before b.1 := by
  induction calls using List.reverseRecOn with
  | nil => exact fun report hreport => absurd hreport List.not_mem_nil
  | append_singleton calls call ih =>
    rw [history_concat]
    cases call with
    | observe sender sequence checksumOk => exact ih
    | drain =>
      intro report hreport
      rcases List.mem_append.1 hreport with hbefore | hnow
      · exact ih report hbefore
      · exact List.mem_singleton.1 hnow ▸ ordered_unreported _

/-- **The gaps of a source are those between its own frames, and each is reported once.** Whatever
frames of whatever sources are taken note of, and whenever the gaps are reported: a source is
followed as soon as it had a frame with a right checksum. From then on its stream remembers the
number of its last frame, and its gaps are the places where a number does not follow on the one
before it; what the reports told of it and what they have still to tell add up to these. A frame
adds one gap to its own source if it is said to leave one, and changes nothing else about gaps.
Every report is in order, and tells of no source without a gap. -/
theorem gaps_follow_own_frames (calls : List Call) :
    let h := history calls
    (∀ source,
      ((h.streams.get? source).isSome = true ↔
        ∃ sequence, Call.observe source sequence true ∈ calls) ∧
      (h.streams.get? source).map Stream.last = (numbersOf source calls).getLast? ∧
      h.streams.gapsOf source = gapsIn (numbersOf source calls) ∧
      (h.reports.map (reportedOf source)).sum + h.streams.unreportedOf source =
        h.streams.gapsOf source) ∧
    (∀ source sequence checksumOk other,
      (h.streams.observe source sequence checksumOk).gapsOf other =
        h.streams.gapsOf other +
          if other = source ∧ h.streams.isGap source sequence = true then 1 else 0) ∧
    ∀ report ∈ h.reports,
      (∀ e ∈ report, 0 < e.2) ∧ report.Pairwise fun a b => a.1.Before b.1 := by
  intro h
  refine ⟨fun source => ⟨?_, last_history source calls, gapsOf_history source calls,
    reported_history source calls⟩, fun source sequence checksumOk other =>
    gapsOf_observe _ source sequence checksumOk other, ordered_history calls⟩
  -- A stream that remembers a number is there, and conversely.
  rw [← numbersOf_ne_nil_iff, ← Option.isSome_map (f := Stream.last), last_history]
  simp [List.getLast?_isSome]

/-- The first frame has a wrong checksum and does not count; after 255 comes 0; the frame of another
source leaves no gap, and a gap is reported once. -/
example :
    let source : Source := ⟨1, 1⟩
    let other : Source := ⟨1, 2⟩
    let h := history [.observe source 7 false, .observe source 255 true, .observe other 9 true,
      .observe source 0 false, .observe source 2 true, .drain, .drain]
    h.streams.get? source = some { last := 2, gaps := 1 } ∧ h.reports = [[(source, 1)], []] := by
  decide +kernel

end Streams

end VehicleLink
