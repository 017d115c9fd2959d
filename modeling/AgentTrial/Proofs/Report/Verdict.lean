import AgentTrial.Optimizer.Loop
import AgentTrial.Proofs.Report.Count
import AgentTrial.Proofs.Report.Tally

/-!
# Verdict — what a good verdict says about every unit

A verdict looks at counts only.  The counts are such that the best verdict leaves no room for a unit that did not pass,
or was not skipped where skipping is allowed.

* `pass_of_success`: a success is one of every unit.
* `pass_of_full`: so is a full pass rate when skipped units count.
* `pass_or_skip_of_full`: when they do not count, at least one of the units has passed and the others were skipped.
-/

namespace AgentTrial

theorem HostState.task_eq_passed_iff {s : HostState} : s.task = .passed ↔ s = .pass := by
  cases s <;> simp [task]

namespace ResultReport

variable {α : Type} [Score α] {percent : α} {r : HostReport} {policy : SkipPolicy}

/-- A threshold that tells all counts apart is met only if all units that count have passed, and there are any. -/
theorem counted_of_full (discerns : Count.Discerns percent r.units.length)
    (full : (normalize r policy).meetsThreshold percent = true) :
    (normalize (α := α) r policy).summary.passed = (normalize (α := α) r policy).summary.counted policy ∧
      0 < (normalize (α := α) r policy).summary.passed := by
  have hle : (normalize (α := α) r policy).summary.passed ≤ (normalize (α := α) r policy).summary.counted policy :=
    passed_le_counted
  have hmost : (normalize (α := α) r policy).summary.counted policy ≤ r.units.length :=
    Nat.le_trans counted_le_length (Nat.le_of_eq (List.length_map _))
  have hfull : (if (normalize (α := α) r policy).summary.counted policy = 0 then
      Score.atMost percent (Score.ofCount 0) else _) = true := full
  by_cases hcounted : (normalize (α := α) r policy).summary.counted policy = 0
  · rw [if_pos hcounted, discerns.nothing] at hfull
    exact absurd hfull Bool.false_ne_true
  · rw [if_neg hcounted] at hfull
    have hall := discerns.apart _ _ hle hmost hfull
    omega

/-- If as many have passed as count, every unit that counts has passed. -/
theorem pass_of_counted (hall : (normalize (α := α) r policy).summary.passed =
    (normalize (α := α) r policy).summary.counted policy) :
    ∀ u ∈ r.units, policy.counts u.state.task = true → u.state = .pass := by
  intro u hu hcounts
  rw [summary_normalize, passed_eq_counted_iff] at hall
  exact HostState.task_eq_passed_iff.1 (hall u.outcome (List.mem_map_of_mem hu) hcounts)

theorem pass_of_success (h : (normalize (α := α) r .countAsFailure).success = true) :
    ∀ u ∈ r.units, u.state = .pass :=
  fun u hu => pass_of_counted (success_normalize_iff.1 h).2 u hu rfl

theorem pass_of_full (discerns : Count.Discerns percent r.units.length)
    (full : (normalize r .countAsFailure).meetsThreshold percent = true) : ∀ u ∈ r.units, u.state = .pass :=
  fun u hu => pass_of_counted (counted_of_full discerns full).1 u hu rfl

theorem pass_or_skip_of_full (discerns : Count.Discerns percent r.units.length)
    (full : (normalize r .exclude).meetsThreshold percent = true) :
    (∀ u ∈ r.units, u.state = .pass ∨ u.state = .skip) ∧ ∃ u ∈ r.units, u.state = .pass := by
  obtain ⟨hall, hsome⟩ := counted_of_full discerns full
  constructor
  · intro u hu
    by_cases hskip : u.state = .skip
    · exact .inr hskip
    · refine .inl (pass_of_counted hall u hu ?_)
      cases hstate : u.state <;> simp [hstate, HostState.task, SkipPolicy.counts] at hskip ⊢
  · obtain ⟨o, ho, hp⟩ := List.countP_pos_iff.1 hsome
    obtain ⟨u, hu, rfl⟩ := List.mem_map.1 ho
    exact ⟨u, hu, HostState.task_eq_passed_iff.1 (of_decide_eq_true hp)⟩

end ResultReport

end AgentTrial
