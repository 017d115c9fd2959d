import AgentTrial.Proofs.Report.Tally
import AgentTrial.Report.Execute
import Mathlib.Algebra.Order.Field.Basic
import Mathlib.Data.Rat.Cast.Order

/-!
# Rate — the pass rate and the verdicts on it

A threshold is compared with counts, a pass rate is a quotient of counts, and a success looks at every outcome.  In
exact numbers all of them say the same: a threshold is met exactly if the pass rate in percent reaches it.

* `passRate_eq`: the pass rate in the counts of the summary.
* `meetsThreshold_iff`: the threshold against the pass rate.
* `Tallied`, `Rated`, `Void`: what the parts of a report have to do with each other.
* `scoring_agrees`: they have for every report of a host, and for every failed submission.
-/

namespace AgentTrial

namespace ResultReport

/-- The counts of a report under a policy, its pass rate and its success, which also depends on what the host told. -/
structure Tallied {α : Type} [Score α] (policy : SkipPolicy) (told : Bool) (R : ResultReport α) : Prop where
  parts : R.summary.passed + R.summary.failed + R.summary.skipped + R.summary.errored = R.summary.total
  total : R.summary.total = R.outcomes.length
  skipped : R.summary.skipped ≤ R.summary.total
  counted : R.summary.counted policy = R.outcomes.countP fun o => policy.counts o.state
  rate : R.passRate = if R.summary.counted policy = 0 then Score.ofCount 0
    else Score.quotient (Score.ofCount R.summary.passed) (Score.ofCount (R.summary.counted policy))
  success : R.success = true ↔ told = true ∧ R.summary.passed = R.summary.counted policy

/-- The exact pass rate of a report under a policy, and the thresholds that it meets. -/
structure Rated (policy : SkipPolicy) (R : ResultReport Rat) : Prop where
  nothing : R.summary.counted policy = 0 → R.passRate = 0
  rate : R.summary.counted policy ≠ 0 → R.passRate = R.summary.passed / R.summary.counted policy
  nonneg : 0 ≤ R.passRate
  le_one : R.passRate ≤ 1
  threshold : ∀ percent, R.meetsThreshold percent = true ↔ percent ≤ 100 * R.passRate

/-- A report without outcomes that meets no threshold. -/
structure Void {α : Type} [Score α] (R : ResultReport α) : Prop where
  fatal : R.fatal = true
  outcomes : R.outcomes = []
  rate : R.passRate = Score.ofCount 0
  threshold : ∀ percent, R.meetsThreshold percent = false

end ResultReport

/-- The pass rate takes its numbers from the same counts as the summary. -/
theorem passRate_eq {α : Type} [Score α] (policy : SkipPolicy) (outcomes : List TaskOutcome) :
    (passRate policy outcomes : α) = if (summarize outcomes).counted policy = 0 then Score.ofCount 0
      else Score.quotient (Score.ofCount (summarize outcomes).passed)
        (Score.ofCount ((summarize outcomes).counted policy)) := by
  rw [counted_summarize]
  rfl

section Rational

variable {policy : SkipPolicy} {outcomes : List TaskOutcome}

/-- Division by zero gives zero, so the exact pass rate is a quotient in any case. -/
theorem passRate_rat (policy : SkipPolicy) (outcomes : List TaskOutcome) : (passRate policy outcomes : Rat) =
    (summarize outcomes).passed / (summarize outcomes).counted policy := by
  rw [passRate_eq]
  by_cases hcounted : (summarize outcomes).counted policy = 0
  · rw [if_pos hcounted, hcounted, Nat.cast_zero, div_zero]
    rfl
  · rw [if_neg hcounted]
    rfl

theorem passRate_nonneg : (0 : Rat) ≤ passRate policy outcomes := by
  rw [passRate_rat]
  exact div_nonneg (Nat.cast_nonneg _) (Nat.cast_nonneg _)

theorem passRate_le_one : (passRate policy outcomes : Rat) ≤ 1 := by
  have hle : ((summarize outcomes).passed : Rat) ≤ (summarize outcomes).counted policy :=
    Nat.cast_le.2 passed_le_counted
  rw [passRate_rat]
  exact div_le_one_of_le₀ hle (Nat.cast_nonneg _)

end Rational

namespace ResultReport

variable {R : ResultReport Rat}

/-- In exact numbers, comparing the counts is comparing the pass rate. -/
theorem meetsThreshold_iff (alive : R.fatal = false) (rated : R.passRate = AgentTrial.passRate R.skipPolicy R.outcomes)
    (percent : Rat) : R.meetsThreshold percent = true ↔ percent ≤ 100 * R.passRate := by
  have hrate : R.passRate = (R.summary.passed : Rat) / (R.summary.counted R.skipPolicy : Rat) :=
    rated.trans (passRate_rat _ _)
  have hmeets : R.meetsThreshold percent =
      if R.summary.counted R.skipPolicy = 0 then decide (percent ≤ ((0 : Nat) : Rat))
      else decide (percent * (R.summary.counted R.skipPolicy : Rat) ≤
        (R.summary.passed : Rat) * ((100 : Nat) : Rat)) := by
    unfold meetsThreshold
    rw [alive]
    rfl
  rw [hmeets, hrate]
  by_cases hcounted : R.summary.counted R.skipPolicy = 0
  · rw [if_pos hcounted, hcounted, decide_eq_true_eq, Nat.cast_zero, div_zero, mul_zero]
  · have hpos : (0 : Rat) < R.summary.counted R.skipPolicy := Nat.cast_pos.2 (Nat.pos_of_ne_zero hcounted)
    rw [if_neg hcounted, decide_eq_true_eq, ← mul_div_assoc, le_div_iff₀ hpos, Nat.cast_ofNat,
      mul_comm (R.summary.passed : Rat)]

theorem meetsThreshold_normalize_iff (r : HostReport) (policy : SkipPolicy) (percent : Rat) :
    (normalize r policy).meetsThreshold percent = true ↔ percent ≤ 100 * (normalize (α := Rat) r policy).passRate :=
  meetsThreshold_iff rfl rfl percent

theorem tallied_normalize {α : Type} [Score α] (r : HostReport) (policy : SkipPolicy) :
    Tallied policy r.success (normalize (α := α) r policy) where
  parts := summarize_parts _
  total := rfl
  skipped := skipped_le_total _
  counted := counted_summarize _ _
  rate := passRate_eq _ _
  success := success_normalize_iff

theorem rated_normalize (r : HostReport) (policy : SkipPolicy) : Rated policy (normalize r policy) := by
  have hrate : (normalize (α := Rat) r policy).passRate = (normalize (α := Rat) r policy).summary.passed /
      (normalize (α := Rat) r policy).summary.counted policy := passRate_rat _ _
  refine ⟨fun hcounted => ?_, fun _ => hrate, passRate_nonneg, passRate_le_one, meetsThreshold_normalize_iff r policy⟩
  rw [hrate, hcounted, Nat.cast_zero, div_zero]

theorem void_ofFailure {α : Type} [Score α] (message : String) (policy : SkipPolicy) :
    Void (ofFailure (α := α) message policy) := ⟨rfl, rfl, rfl, fun _ => rfl⟩

/-- The ways of scoring a report agree.  Its counts add up, and no more units were skipped than there are; the pass rate
is the share of the passed units in those that count, and lies between 0 and 1; a success is one of all units that
count; a threshold is met exactly if the pass rate in percent reaches it.  A report is fatal exactly if the host failed,
and then it has no outcomes and meets no threshold, in whatever numbers. -/
theorem scoring_agrees :
    (∀ (r : HostReport) (policy : SkipPolicy),
      (∀ {α : Type} [Score α], Tallied policy r.success (normalize (α := α) r policy)) ∧
      Rated policy (normalize r policy)) ∧
    ∀ {α : Type} [Score α] (policy : SkipPolicy),
      (∀ message, Void (ofFailure (α := α) message policy)) ∧
      ∀ result, (ofRun (α := α) policy result).fatal = true ↔ ∃ f, result = .error f := by
  refine ⟨fun r policy => ⟨tallied_normalize r policy, rated_normalize r policy⟩, fun policy =>
    ⟨fun message => void_ofFailure message policy, fun result => ?_⟩⟩
  cases result with
  | error f => exact ⟨fun _ => ⟨f, rfl⟩, fun _ => rfl⟩
  | ok r => exact ⟨nofun, nofun⟩

end ResultReport

end AgentTrial
