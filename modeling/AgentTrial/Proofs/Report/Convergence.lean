import AgentTrial.Optimizer.Loop
import AgentTrial.Proofs.Report.Rate

/-!
# Convergence — what does not undo it

Whether a run converges depends on the counts of a report, and so not on the order of its units.  In exact numbers it
depends on the pass rate, and that never gets less by a unit that passes, or by leaving skipped units out.

* `summarize_perm`: the order of the units does not matter to the counts.
* `passRate_replace`, `passRate_exclude`: what the pass rate does not get less by.
* `LoopState.step_converged_mono`: a step converges if another one does that is at least as hard.
* `convergence_stable`: the steps of a run on reports that are as good or better.
-/

namespace AgentTrial

/-- The report of the same unit if it had passed. -/
def UnitReport.passing (u : UnitReport) : UnitReport := { u with state := .pass }

/-- The same report if the unit at an index had passed. -/
def HostReport.passing (r : HostReport) (i : Nat) : HostReport := { r with units := r.units.modify i .passing }

/-! ## Steps -/

namespace LoopState

variable {α : Type} [Score α] {stop stop' : StopPolicy α} {R R' : ResultReport α}

/-- A step looks at a report through its threshold only. -/
theorem step_congr (h : R.meetsThreshold stop.minPassRate = R'.meetsThreshold stop.minPassRate) (state : LoopState) :
    state.step stop R = state.step stop R' := by
  cases state with
  | running completed => rw [step, step, h]
  | converged n => rfl
  | exhausted n => rfl

/-- What meets a threshold where another report does, converges where that one does. -/
theorem step_converged_mono (h : R.meetsThreshold stop.minPassRate = true → R'.meetsThreshold stop'.minPassRate = true)
    {state : LoopState} {n : Nat} (converged : state.step stop R = .converged n) :
    state.step stop' R' = .converged n := by
  cases state with
  | running completed =>
    obtain ⟨hn, hmeets⟩ := step_eq_converged_iff.1 converged
    exact step_eq_converged_iff.2 ⟨hn, h hmeets⟩
  | converged n => exact converged
  | exhausted n => exact converged

end LoopState

/-! ## The order of the units -/

theorem summarize_perm {outcomes outcomes' : List TaskOutcome} (h : outcomes.Perm outcomes') :
    summarize outcomes = summarize outcomes' := by
  unfold summarize countState
  rw [h.length_eq, h.countP_eq, h.countP_eq, h.countP_eq, h.countP_eq]

section Order

variable {α : Type} [Score α] {r r' : HostReport}

/-- Under one policy, the counts of a report decide which thresholds it meets. -/
theorem ResultReport.meetsThreshold_congr {policy : SkipPolicy}
    (summary : (normalize (α := α) r' policy).summary = (normalize (α := α) r policy).summary) (percent : α) :
    (normalize r' policy).meetsThreshold percent = (normalize r policy).meetsThreshold percent := by
  unfold meetsThreshold
  rw [summary]
  rfl

/-- A report on the same units in another order has the same score. -/
theorem normalize_perm {units : List UnitReport} (perm : units.Perm r.units) (policy : SkipPolicy) :
    (normalize (α := α) { r with units } policy).summary = (normalize (α := α) r policy).summary ∧
      (normalize (α := α) { r with units } policy).passRate = (normalize (α := α) r policy).passRate ∧
      (normalize (α := α) { r with units } policy).success = (normalize (α := α) r policy).success := by
  have hsummary : summarize (units.map UnitReport.outcome) = summarize (r.units.map UnitReport.outcome) :=
    summarize_perm (perm.map _)
  have hrate : (passRate policy (units.map UnitReport.outcome) : α) =
      passRate policy (r.units.map UnitReport.outcome) := by
    rw [passRate_eq, passRate_eq, hsummary]
  refine ⟨hsummary, hrate, Bool.eq_iff_iff.2 ?_⟩
  rw [ResultReport.success_normalize_iff, ResultReport.success_normalize_iff, ResultReport.summary_normalize,
    ResultReport.summary_normalize, hsummary]

end Order

/-! ## The pass rate -/

/-- Quotients of counts compared by their cross products; a quotient by zero is zero. -/
theorem quotient_le_quotient {p c p' c' : Nat} (cross : p * c' ≤ p' * c) (empty : c' = 0 → p = 0) :
    (p : Rat) / c ≤ (p' : Rat) / c' := by
  by_cases hc' : c' = 0
  · rw [empty hc', hc', Nat.cast_zero, zero_div, div_zero]
  · by_cases hc : c = 0
    · rw [hc, Nat.cast_zero, div_zero]
      exact div_nonneg (Nat.cast_nonneg _) (Nat.cast_nonneg _)
    · have hpos : (0 : Rat) < c := Nat.cast_pos.2 (Nat.pos_of_ne_zero hc)
      have hpos' : (0 : Rat) < c' := Nat.cast_pos.2 (Nat.pos_of_ne_zero hc')
      rw [div_le_div_iff₀ hpos hpos']
      exact_mod_cast cross

section Rational

variable {policy : SkipPolicy} {before after outcomes : List TaskOutcome}

theorem passed_insert (o : TaskOutcome) : (summarize (before ++ o :: after)).passed =
    (summarize (before ++ after)).passed + if o.state = .passed then 1 else 0 := by
  unfold summarize countState
  dsimp only
  rw [List.countP_append, List.countP_append, List.countP_cons]
  simp only [decide_eq_true_eq]
  omega

theorem counted_insert (o : TaskOutcome) : (summarize (before ++ o :: after)).counted policy =
    (summarize (before ++ after)).counted policy + if policy.counts o.state = true then 1 else 0 := by
  rw [counted_summarize, counted_summarize, List.countP_append, List.countP_append, List.countP_cons]
  omega

/-- The pass rate does not get less by an outcome that has passed in place of any other.  Where the other one does not
count, there is one more on both sides of the quotient, which is at most one. -/
theorem passRate_replace {o o' : TaskOutcome} (passed : o'.state = .passed) :
    (passRate policy (before ++ o :: after) : Rat) ≤ passRate policy (before ++ o' :: after) := by
  have hle : (summarize (before ++ after)).passed ≤ (summarize (before ++ after)).counted policy := passed_le_counted
  have hcounts' : policy.counts o'.state = true := policy.counts_of_passed (decide_eq_true passed)
  rw [passRate_rat, passRate_rat, passed_insert, passed_insert, counted_insert, counted_insert, if_pos passed,
    if_pos hcounts']
  generalize (summarize (before ++ after)).passed = p at hle ⊢
  generalize (summarize (before ++ after)).counted policy = c at hle ⊢
  refine quotient_le_quotient ?_ (by omega)
  by_cases hpassed : o.state = .passed
  · have hcounts : policy.counts o.state = true := policy.counts_of_passed (decide_eq_true hpassed)
    rw [if_pos hpassed, if_pos hcounts]
  · rw [if_neg hpassed]
    by_cases hcounts : policy.counts o.state = true
    · rw [if_pos hcounts]
      exact Nat.mul_le_mul_right _ (Nat.le_succ p)
    · rw [if_neg hcounts]
      calc p * (c + 1) = p * c + p := Nat.mul_succ p c
        _ ≤ p * c + c := Nat.add_le_add_left hle _
        _ = (p + 1) * c := (Nat.succ_mul p c).symm

/-- Nor by leaving the skipped outcomes out. -/
theorem passRate_exclude (outcomes : List TaskOutcome) :
    (passRate .countAsFailure outcomes : Rat) ≤ passRate .exclude outcomes := by
  have hle : (summarize outcomes).passed ≤ (summarize outcomes).counted .exclude := passed_le_counted
  have hfewer : (summarize outcomes).counted .exclude ≤ (summarize outcomes).counted .countAsFailure := Nat.sub_le _ _
  rw [passRate_rat, passRate_rat]
  refine quotient_le_quotient (Nat.mul_le_mul_left _ hfewer) (by omega)

theorem passRate_passing (r : HostReport) (i : Nat) (policy : SkipPolicy) :
    (normalize r policy).passRate ≤ (normalize (α := Rat) (r.passing i) policy).passRate := by
  show (passRate policy (r.units.map UnitReport.outcome) : Rat) ≤
    passRate policy ((r.units.modify i .passing).map UnitReport.outcome)
  by_cases hi : i < r.units.length
  · obtain ⟨before, u, after, hunits, -, hmodify⟩ := List.exists_of_modify UnitReport.passing hi
    rw [hmodify, hunits, List.map_append, List.map_append, List.map_cons, List.map_cons]
    exact passRate_replace rfl
  · rw [List.modify_eq_self (Nat.le_of_not_lt hi)]

end Rational

/-- Another report, or a threshold, that is as good or better does not undo that a step converges. -/
theorem converged_of_passRate_le {r r' : HostReport} {policy policy' : SkipPolicy} {stop stop' : StopPolicy Rat}
    (rate : (normalize (α := Rat) r policy).passRate ≤ (normalize (α := Rat) r' policy').passRate)
    (threshold : stop'.minPassRate ≤ stop.minPassRate) {state : LoopState} {n : Nat}
    (converged : state.step stop (normalize r policy) = .converged n) :
    state.step stop' (normalize r' policy') = .converged n := by
  refine LoopState.step_converged_mono (fun hmeets => ?_) converged
  rw [ResultReport.meetsThreshold_normalize_iff] at hmeets ⊢
  calc stop'.minPassRate ≤ stop.minPassRate := threshold
    _ ≤ 100 * (normalize (α := Rat) r policy).passRate := hmeets
    _ ≤ 100 * (normalize (α := Rat) r' policy').passRate := mul_le_mul_of_nonneg_left rate (by decide)

/-- Convergence does not depend on the order of the units, in whatever numbers: in another order the counts, the pass
rate, the success and the next state are the same.  And nothing that makes a report better undoes it, in exact numbers:
not a unit that passes after all, nor a lower threshold, nor leaving the skipped units out. -/
theorem convergence_stable (r : HostReport) (policy : SkipPolicy) (state : LoopState) :
    (∀ {α : Type} [Score α] (stop : StopPolicy α) (units : List UnitReport), units.Perm r.units →
      (normalize (α := α) { r with units } policy).summary = (normalize (α := α) r policy).summary ∧
      (normalize (α := α) { r with units } policy).passRate = (normalize (α := α) r policy).passRate ∧
      (normalize (α := α) { r with units } policy).success = (normalize (α := α) r policy).success ∧
      state.step stop (normalize { r with units } policy) = state.step stop (normalize r policy)) ∧
    ∀ (stop : StopPolicy Rat) (n : Nat),
      (state.step stop (normalize r policy) = .converged n →
        (∀ i, state.step stop (normalize (r.passing i) policy) = .converged n) ∧
        ∀ percent, percent ≤ stop.minPassRate →
          state.step { stop with minPassRate := percent } (normalize r policy) = .converged n) ∧
      (state.step stop (normalize r .countAsFailure) = .converged n →
        state.step stop (normalize r .exclude) = .converged n) := by
  refine ⟨fun {α} _ stop units hunits => ?_, fun stop n => ⟨fun converged => ⟨fun i => ?_, fun percent lower => ?_⟩,
    fun converged => ?_⟩⟩
  · obtain ⟨summary, rate, success⟩ := normalize_perm (α := α) hunits policy
    have hmeets := ResultReport.meetsThreshold_congr summary stop.minPassRate
    exact ⟨summary, rate, success, LoopState.step_congr hmeets state⟩
  · exact converged_of_passRate_le (passRate_passing r i policy) le_rfl converged
  · exact converged_of_passRate_le le_rfl lower converged
  · exact converged_of_passRate_le (passRate_exclude _) le_rfl converged

/-- A report of which a half has passed if the skipped unit does not count, and a third if it does. -/
def halved : HostReport := .ofStates [.pass, .skip, .fail]

theorem convergence_stable_halved :
    halved.units.reverse.Perm halved.units ∧
    (LoopState.running 2).step ⟨3, 50⟩ (normalize (α := Rat) halved .exclude) = .converged 3 ∧
    (LoopState.running 2).step ⟨3, 50⟩ (normalize (α := Rat) { halved with units := halved.units.reverse } .exclude) =
      .converged 3 ∧
    (LoopState.running 2).step ⟨3, 50⟩ (normalize (α := Rat) (halved.passing 1) .exclude) = .converged 3 ∧
    (40 : Rat) ≤ 50 ∧ (LoopState.running 2).step ⟨3, 40⟩ (normalize (α := Rat) halved .exclude) = .converged 3 ∧
    (LoopState.running 2).step ⟨3, 33⟩ (normalize (α := Rat) halved .countAsFailure) = .converged 3 ∧
    (LoopState.running 2).step ⟨3, 33⟩ (normalize (α := Rat) halved .exclude) = .converged 3 ∧
    (LoopState.running 2).step ⟨3, 50⟩ (normalize (α := Rat) halved .countAsFailure) = .exhausted 3 := by
  have hperm : halved.units.reverse.Perm halved.units := List.reverse_perm _
  have hconverged : (LoopState.running 2).step ⟨3, 50⟩ (normalize (α := Rat) halved .exclude) = .converged 3 := by
    decide +kernel
  have hstrict : (LoopState.running 2).step ⟨3, 33⟩ (normalize (α := Rat) halved .countAsFailure) = .converged 3 := by
    decide +kernel
  obtain ⟨order, better⟩ := convergence_stable halved .exclude (.running 2)
  obtain ⟨-, -, -, reversed⟩ := order (⟨3, 50⟩ : StopPolicy Rat) halved.units.reverse hperm
  obtain ⟨passing, lower⟩ := (better ⟨3, 50⟩ 3).1 hconverged
  exact ⟨hperm, hconverged, reversed.trans hconverged, passing 1, by decide +kernel, lower 40 (by decide +kernel),
    hstrict, (better ⟨3, 33⟩ 3).2 hstrict, by decide +kernel⟩

end AgentTrial
