import Mathlib.Algebra.GroupWithZero.Nat
import VehicleLink.SendFailureLog

/-!
# No failure to send is lost or told too often

Every failure is reported on its own, or counted and told later with another report or by itself.
Whatever the log is called for, and in whatever order: what was reported, what reports told besides
and what is still held back are together all failures (`no_failure_lost`), and two reports are at
least one interval apart.

Both rest on what one call can do (`Sound.perform_cases`): it holds back what it was told, or it
reports all that was held back and starts anew.
-/

namespace VehicleLink

/-- How many failures a report tells of without naming them. -/
def Notice.heldBack : Notice → Nat
  | sendFailed _ _ (some suppressed) => suppressed
  | sendFailuresSuppressed count _ => count
  | _ => 0

namespace SendFailureLog

/-! ## Calls and reports -/

/-- What the log is called for. -/
inductive Call where
  | record (target : SocketAddress) (reason : String) (now : Nat)
  | flush (now : Nat)
deriving DecidableEq, Repr

namespace Call

/-- When the log is called. -/
def time : Call → Nat
  | record _ _ now => now
  | flush now => now

/-- Whether the call tells of a failure. -/
def isRecord : Call → Bool
  | record _ _ _ => true
  | flush _ => false

/-- How many failures the call tells of. -/
def failures (call : Call) : Nat := if call.isRecord then 1 else 0

end Call

/-- Answers a call. -/
def perform (log : SendFailureLog) : Call → Option Notice × SendFailureLog
  | .record target reason now => log.record target reason now
  | .flush now => log.flush now

/-- A line that was logged, with the call that it was logged in. -/
structure Line where
  call : Call
  notice : Notice
deriving DecidableEq, Repr

/-- The lines of some calls, in order, and the log after them. -/
def performAll (log : SendFailureLog) : List Call → List Line × SendFailureLog
  | [] => ([], log)
  | call :: rest =>
    let r := (log.perform call).2.performAll rest
    ((log.perform call).1.toList.map (Line.mk call) ++ r.1, r.2)

variable {log : SendFailureLog} {call : Call}

theorem performAll_cons_of_none {next : SendFailureLog} (h : log.perform call = (none, next))
    (rest : List Call) : log.performAll (call :: rest) = next.performAll rest := by
  rw [performAll, h]
  rfl

theorem performAll_cons_of_some {notice : Notice} {next : SendFailureLog}
    (h : log.perform call = (some notice, next)) (rest : List Call) :
    log.performAll (call :: rest) =
      (⟨call, notice⟩ :: (next.performAll rest).1, (next.performAll rest).2) := by
  rw [performAll, h]
  rfl

/-! ## One call -/

/-- Before the first report nothing is held back. -/
def Sound (log : SendFailureLog) : Prop := log.lastReport = none → log.suppressed = 0

theorem sound_start (interval : Nat) : ({ interval } : SendFailureLog).Sound := fun _ => rfl

/-- A call holds back what it was told, which it does not do before the first report; or it reports
all that was held back, which it does not do too early. -/
theorem Sound.perform_cases (h : log.Sound) (call : Call) :
    (log.perform call = (none, { log with suppressed := log.suppressed + call.failures }) ∧
      (log.lastReport = none → call.isRecord = false)) ∨
    ∃ notice, log.perform call =
        (some notice, { log with lastReport := some call.time, suppressed := 0 }) ∧
      notice.heldBack = log.suppressed ∧
      ∀ last, log.lastReport = some last → log.interval ≤ Duration.between last call.time := by
  obtain ⟨interval, lastReport, suppressed⟩ := log
  cases call with
  | record target reason now =>
    cases lastReport with
    | none =>
      -- The first report says nothing of earlier failures, and there are none.
      obtain rfl : suppressed = 0 := h rfl
      exact Or.inr ⟨.sendFailed target reason none, rfl, rfl, fun last hlast => nomatch hlast⟩
    | some last =>
      by_cases hsoon : Duration.between last now < interval
      · exact Or.inl ⟨if_pos hsoon, fun hnone => nomatch hnone⟩
      · refine Or.inr ⟨.sendFailed target reason (some suppressed), if_neg hsoon, rfl, ?_⟩
        rintro _ ⟨⟩
        exact Nat.le_of_not_lt hsoon
  | flush now =>
    cases lastReport with
    | none => exact Or.inl ⟨rfl, fun _ => rfl⟩
    | some last =>
      by_cases hidle : (suppressed = 0 || Duration.between last now < interval) = true
      · exact Or.inl ⟨if_pos hidle, fun _ => rfl⟩
      · refine Or.inr ⟨.sendFailuresSuppressed suppressed (Duration.between last now),
          if_neg hidle, rfl, ?_⟩
        rintro _ ⟨⟩
        rw [Bool.not_eq_true, Bool.or_eq_false_iff, decide_eq_false_iff_not,
          decide_eq_false_iff_not] at hidle
        exact Nat.le_of_not_lt hidle.2

/-- Holding back keeps to the rule, as long as it does not happen before the first report. -/
theorem Sound.heldBack (h : log.Sound) (hcall : log.lastReport = none → call.isRecord = false) :
    ({ log with suppressed := log.suppressed + call.failures } : SendFailureLog).Sound := by
  intro hnone
  show log.suppressed + call.failures = 0
  rw [h hnone, Call.failures, hcall hnone]
  rfl

theorem sound_reported (log : SendFailureLog) (now : Nat) :
    ({ log with lastReport := some now, suppressed := 0 } : SendFailureLog).Sound :=
  fun hnone => nomatch hnone

/-- A record is held back exactly as long as the last report is less than one interval old. -/
theorem record_eq_none_iff {target : SocketAddress} {reason : String} {now : Nat} :
    (log.record target reason now).1 = none ↔
      ∃ last, log.lastReport = some last ∧ Duration.between last now < log.interval := by
  unfold record
  cases log.lastReport with
  | none => simp
  | some last =>
    by_cases hsoon : Duration.between last now < log.interval
    · simp [hsoon]
    · simp [hsoon]

/-! ## All calls -/

/-- What becomes of a log that told some lines: it keeps its interval, and its last report is the
last line, or was made before. -/
structure After (log : SendFailureLog) (told : List Line × SendFailureLog) : Prop where
  sound : told.2.Sound
  interval_eq : told.2.interval = log.interval
  lastReport_eq : told.2.lastReport = (told.1.getLast?.map (·.call.time)).or log.lastReport

/-- Induction on the calls, with one case for a call that holds back and one for a call that
reports. -/
theorem Sound.after (h : log.Sound) (calls : List Call) : log.After (log.performAll calls) := by
  induction calls generalizing log with
  | nil => exact ⟨h, rfl, rfl⟩
  | cons call rest ih =>
    rcases h.perform_cases call with ⟨hnone, hcall⟩ | ⟨notice, hsome, -, -⟩
    · rw [performAll_cons_of_none hnone]
      obtain ⟨hsound, hinterval, hlast⟩ := ih (h.heldBack hcall)
      exact ⟨hsound, hinterval, hlast⟩
    · rw [performAll_cons_of_some hsome]
      obtain ⟨hsound, hinterval, hlast⟩ := ih (log.sound_reported call.time)
      refine ⟨hsound, hinterval, hlast.trans ?_⟩
      -- The line of this call is the last one if the rest told none.
      rw [List.getLast?_cons]
      cases (({ log with lastReport := some call.time, suppressed := 0 } :
        SendFailureLog).performAll rest).1.getLast? <;> rfl

/-- What was held back before the calls, and the failures of the calls, are what was reported, what
was told with it and what is held back now. -/
theorem Sound.conserved (h : log.Sound) (calls : List Call) :
    log.suppressed + calls.countP Call.isRecord =
      (log.performAll calls).1.countP (·.call.isRecord) +
        ((log.performAll calls).1.map (·.notice.heldBack)).sum +
        (log.performAll calls).2.suppressed := by
  induction calls generalizing log with
  | nil => simp [SendFailureLog.performAll]
  | cons call rest ih =>
    have hcount : (call :: rest).countP Call.isRecord =
        rest.countP Call.isRecord + call.failures := List.countP_cons
    rcases h.perform_cases call with ⟨hnone, hcall⟩ | ⟨notice, hsome, hheld, -⟩
    · have hrest := ih (h.heldBack hcall)
      rw [performAll_cons_of_none hnone, ← hrest, hcount]
      show _ = log.suppressed + call.failures + _
      omega
    · have hrest : 0 + rest.countP Call.isRecord = _ := ih (log.sound_reported call.time)
      -- The line of a recorded failure is the report of that failure itself.
      have hlines : ∀ lines : List Line, (⟨call, notice⟩ :: lines).countP (·.call.isRecord) =
          lines.countP (·.call.isRecord) + call.failures := fun lines => List.countP_cons
      simp only [performAll_cons_of_some hsome, hcount, hlines, List.map_cons, List.sum_cons, hheld]
      omega

/-- Every line comes at least one interval after the last report, hence after all lines before
it. -/
theorem Sound.spaced (h : log.Sound) (hinterval : 0 < log.interval) (calls : List Call) :
    (∀ last, log.lastReport = some last →
      ∀ line ∈ (log.performAll calls).1, last + log.interval ≤ line.call.time) ∧
    (log.performAll calls).1.Pairwise fun a b => a.call.time + log.interval ≤ b.call.time := by
  induction calls generalizing log with
  | nil =>
    refine ⟨?_, List.Pairwise.nil⟩
    intro last _ line hline
    cases hline
  | cons call rest ih =>
    rcases h.perform_cases call with ⟨hnone, hcall⟩ | ⟨notice, hsome, -, hlate⟩
    · rw [performAll_cons_of_none hnone]
      exact ih (h.heldBack hcall) hinterval
    -- The line of this call is the last report for all calls behind it.
    · obtain ⟨hlater, hpairwise⟩ := ih (log.sound_reported call.time) hinterval
      have hafter := hlater call.time rfl
      rw [performAll_cons_of_some hsome]
      refine ⟨?_, List.pairwise_cons.2 ⟨hafter, hpairwise⟩⟩
      intro last hlast line hline
      -- A clock that was set back would give a span of zero, which is too short.
      have hcall : last + log.interval ≤ call.time := by
        have hspan := hlate last hlast
        unfold Duration.between at hspan
        omega
      rcases List.mem_cons.1 hline with rfl | hrest
      · exact hcall
      · have hline := hafter line hrest
        have hkept : last + log.interval ≤ call.time + log.interval := by omega
        exact Nat.le_trans hkept hline

/-- Before the first failure there is nothing to report. -/
theorem performAll_eq_of_countP_eq_zero (hlog : log.lastReport = none) {calls : List Call}
    (hcalls : calls.countP Call.isRecord = 0) : log.performAll calls = ([], log) := by
  induction calls with
  | nil => rfl
  | cons call rest ih =>
    rw [List.countP_cons] at hcalls
    cases call with
    | record target reason now => simp [Call.isRecord] at hcalls
    | flush now =>
      have hflush : log.perform (.flush now) = (none, log) := by
        simp only [perform, flush, hlog]
      rw [performAll_cons_of_none hflush]
      exact ih (by omega)

/-- **No failure is lost, and none is told too often.** Whatever the log was called for, at whatever
times: the failures are as many as those that were reported, those that reports told of besides and
those that are held back now. The first failure is reported, a later one if and only if the last
line is at least one interval old, and with every line nothing is left held back. Unless the
interval is zero, of any two lines the second comes at least one interval after the first, even if
the clock was set back in between. -/
theorem no_failure_lost (interval : Nat) (calls : List Call) :
    let told := ({ interval } : SendFailureLog).performAll calls
    calls.countP Call.isRecord =
      told.1.countP (·.call.isRecord) + (told.1.map (·.notice.heldBack)).sum + told.2.suppressed ∧
    (calls.countP Call.isRecord = 0 → ∀ target reason now,
      (told.2.record target reason now).1 = some (.sendFailed target reason none)) ∧
    (∀ target reason now, (told.2.record target reason now).1 = none ↔
      ∃ line, told.1.getLast? = some line ∧ Duration.between line.call.time now < interval) ∧
    (∀ call notice, (told.2.perform call).1 = some notice →
      (told.2.perform call).2.suppressed = 0) ∧
    (0 < interval → told.1.Pairwise fun a b => a.call.time + interval ≤ b.call.time) := by
  intro told
  have hstart : ({ interval } : SendFailureLog).Sound := sound_start interval
  have hconserved := hstart.conserved calls
  have hafter := hstart.after calls
  refine ⟨?_, ?_, ?_, ?_, fun hinterval => (hstart.spaced hinterval calls).2⟩
  · rw [← hconserved]
    exact (Nat.zero_add _).symm
  · intro hcalls target reason now
    -- The log is still the one at the start.
    have htold : told = ([], { interval }) := performAll_eq_of_countP_eq_zero rfl hcalls
    rw [htold]
    rfl
  · intro target reason now
    -- Nothing was reported before, so that the last report is the last line.
    have hlast : told.2.lastReport = told.1.getLast?.map (·.call.time) :=
      hafter.lastReport_eq.trans Option.or_none
    rw [record_eq_none_iff, hlast, hafter.interval_eq]
    constructor
    · rintro ⟨last, hlast, hsoon⟩
      obtain ⟨line, hline, rfl⟩ := Option.map_eq_some_iff.1 hlast
      exact ⟨line, hline, hsoon⟩
    · rintro ⟨line, hline, hsoon⟩
      exact ⟨line.call.time, Option.map_eq_some_iff.2 ⟨line, hline, rfl⟩, hsoon⟩
  · intro call notice hline
    rcases hafter.sound.perform_cases call with ⟨hnone, -⟩ | ⟨_, hsome, -, -⟩
    · rw [hnone] at hline
      cases hline
    · rw [hsome]

/-- A gateway that is not there any more; the clock is set back after the second failure. -/
def gatewayDown : List Call :=
  let gateway : SocketAddress := .v4 ⟨10, 0, 0, 1⟩ 14550
  [.flush 4, .record gateway "refused" 20, .record gateway "refused" 24,
   .record gateway "refused" 3]

/-- The first failure is reported at once; the two after it are held back, and told by the flush. -/
theorem gateway_down_told :
    let gateway : SocketAddress := .v4 ⟨10, 0, 0, 1⟩ 14550
    let held := ({ interval := 10 } : SendFailureLog).performAll gatewayDown
    let told := ({ interval := 10 } : SendFailureLog).performAll (gatewayDown ++ [.flush 30])
    ((({ interval := 10 } : SendFailureLog).performAll [.flush 4]).2.record gateway
        "refused" 20).1 =
      some (.sendFailed gateway "refused" none) ∧
    (held.2.record gateway "refused" 29).1 = none ∧
    held.2.suppressed = 2 ∧ (held.2.perform (.flush 30)).2.suppressed = 0 ∧
    told.1 = [⟨.record gateway "refused" 20, .sendFailed gateway "refused" none⟩,
      ⟨.flush 30, .sendFailuresSuppressed 2 10⟩] ∧
    told.1.Pairwise fun a b => a.call.time + 10 ≤ b.call.time := by
  intro gateway held told
  obtain ⟨-, hfirst, -, -, -⟩ := no_failure_lost 10 [.flush 4]
  obtain ⟨-, -, hheld, hcleared, -⟩ := no_failure_lost 10 gatewayDown
  obtain ⟨-, -, -, -, hspaced⟩ := no_failure_lost 10 (gatewayDown ++ [.flush 30])
  refine ⟨hfirst rfl _ _ _, (hheld _ _ _).2 ?_, rfl, hcleared (.flush 30) _ rfl, rfl,
    hspaced (by decide)⟩
  -- The line before was less than an interval ago.
  exact ⟨⟨.record gateway "refused" 20, .sendFailed gateway "refused" none⟩, rfl, by decide⟩

end SendFailureLog

end VehicleLink
