import AgentTrial.Report.Normalize
import Mathlib.Data.List.Basic
import Mathlib.Data.List.Count

/-!
# Tally — what the counts of a report tell

The summary of a report, its pass rate and its verdict count the outcomes apart from each other.  They agree on which
outcomes count, and on what is left when all of those have passed.

* `summarize_parts`: the four counts are all outcomes.
* `counted_summarize`: what a summary counts by subtraction are the outcomes that count.
* `passed_eq_counted_iff`: the counts are equal exactly if every outcome that counts has passed.
* `success_normalize_iff`: so are they in a success.
-/

namespace AgentTrial

/-- An outcome that has passed counts, whatever the policy. -/
theorem SkipPolicy.counts_of_passed (policy : SkipPolicy) {state : TaskState} (h : decide (state = .passed) = true) :
    policy.counts state = true := by
  rw [of_decide_eq_true h]
  cases policy <;> rfl

/-- An outcome spoils a run if it counts and has not passed. -/
theorem TaskOutcome.spoils_eq_false_iff {policy : SkipPolicy} {o : TaskOutcome} :
    o.spoils policy = false ↔ (policy.counts o.state = true → o.state = .passed) := by
  unfold spoils
  cases policy <;> cases o.state <;> simp [SkipPolicy.counts]

/-- Of two tests, one of which implies the other, as many pass the one as the other exactly if the same do. -/
theorem countP_eq_countP_iff {α : Type} {p q : α → Bool} {l : List α} (h : ∀ a ∈ l, p a = true → q a = true) :
    l.countP p = l.countP q ↔ ∀ a ∈ l, q a = true → p a = true := by
  induction l with
  | nil => simp
  | cons a l ih =>
    obtain ⟨ha, hl⟩ := List.forall_mem_cons.1 h
    have hle : l.countP p ≤ l.countP q := List.countP_mono_left hl
    rw [List.forall_mem_cons, ← ih hl, List.countP_cons, List.countP_cons]
    cases hp : p a with
    | true => simp [ha hp]
    | false =>
      cases hq : q a with
      | true => simp; omega
      | false => simp

section Counts

variable {policy : SkipPolicy} {outcomes : List TaskOutcome}

/-- Every outcome is in one of the four states. -/
theorem summarize_parts (outcomes : List TaskOutcome) :
    (summarize outcomes).passed + (summarize outcomes).failed + (summarize outcomes).skipped +
      (summarize outcomes).errored = (summarize outcomes).total := by
  unfold summarize countState
  dsimp only
  induction outcomes with
  | nil => rfl
  | cons o outcomes ih =>
    simp only [List.countP_cons, List.length_cons]
    cases o.state <;> simp <;> omega

theorem skipped_le_total (outcomes : List TaskOutcome) :
    (summarize outcomes).skipped ≤ (summarize outcomes).total := List.countP_le_length

/-- What is counted by subtraction are the outcomes that count. -/
theorem counted_summarize (policy : SkipPolicy) (outcomes : List TaskOutcome) :
    (summarize outcomes).counted policy = outcomes.countP fun o => policy.counts o.state := by
  cases policy with
  | countAsFailure =>
    have hall : outcomes.countP (fun o => SkipPolicy.countAsFailure.counts o.state) = outcomes.length :=
      List.countP_eq_length.2 fun o _ => by cases o.state <;> rfl
    rw [hall]
    rfl
  | exclude =>
    have hsplit := List.length_eq_countP_add_countP (l := outcomes) fun o => decide (o.state = .skipped)
    have hrest : outcomes.countP (fun o => decide ¬ decide (o.state = .skipped) = true) =
        outcomes.countP fun o => SkipPolicy.exclude.counts o.state := by
      refine List.countP_congr fun o _ => ?_
      cases o.state <;> simp [SkipPolicy.counts]
    rw [hrest] at hsplit
    show outcomes.length - countState .skipped outcomes = _
    unfold countState
    omega

theorem passed_le_counted : (summarize outcomes).passed ≤ (summarize outcomes).counted policy := by
  rw [counted_summarize]
  exact List.countP_mono_left fun o _ => policy.counts_of_passed

theorem counted_le_length : (summarize outcomes).counted policy ≤ outcomes.length := by
  rw [counted_summarize]
  exact List.countP_le_length

/-- As many have passed as count exactly if each one that counts has passed. -/
theorem passed_eq_counted_iff : (summarize outcomes).passed = (summarize outcomes).counted policy ↔
    ∀ o ∈ outcomes, policy.counts o.state = true → o.state = .passed := by
  rw [counted_summarize]
  refine (countP_eq_countP_iff fun o _ => policy.counts_of_passed).trans ?_
  simp only [decide_eq_true_eq]

end Counts

namespace ResultReport

variable {α : Type} [Score α] {r : HostReport} {policy : SkipPolicy}

theorem summary_normalize : (normalize (α := α) r policy).summary = summarize (r.units.map UnitReport.outcome) := rfl

/-- A success is one that the host tells of, with nothing that counts and has not passed. -/
theorem success_normalize_iff : (normalize (α := α) r policy).success = true ↔
    r.success = true ∧ (normalize (α := α) r policy).summary.passed =
      (normalize (α := α) r policy).summary.counted policy := by
  have hsuccess : (normalize (α := α) r policy).success =
      (r.success && !(r.units.map UnitReport.outcome).any (·.spoils policy)) := rfl
  rw [hsuccess, summary_normalize, passed_eq_counted_iff, Bool.and_eq_true, Bool.not_eq_true', List.any_eq_false]
  simp only [Bool.not_eq_true, TaskOutcome.spoils_eq_false_iff]

end ResultReport

end AgentTrial
