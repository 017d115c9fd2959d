import AgentTrial.Proofs.Optimizer.Turn

/-!
# Course — how long a run goes on and how it ends

* `Head.Going`: the invariant of a run that goes on.  Each record left the state running, no report met the threshold,
  and a part of the budget is left.
* `optimize_course`: what follows for finished and for aborted runs, whatever host and provider do.
-/

namespace AgentTrial.Optimizer

open Relation

/-- Did the report of an iteration meet the threshold? -/
def Met (settings : OptimizerSettings) (r : IterationRecord) : Prop :=
  r.report.meetsThreshold settings.minPassRate = true

/-- The course of a finished optimization. -/
structure Course (settings : OptimizerSettings) (out : OptimizationOutcome) : Prop where
  nonempty : 1 ≤ out.history.length
  budget : out.history.length ≤ settings.iterations
  numbered : Numbered out.history
  running : ∀ k r, k + 1 < out.history.length → out.history[k]? = some r → r.state = .running (k + 1)
  last : out.history.getLast?.map (·.state) = some out.state
  ended : out.state = .converged out.history.length ∨ out.state = .exhausted out.history.length
  converged_iff : out.state = .converged out.history.length ↔
    ∃ r, out.history.getLast? = some r ∧ Met settings r
  earlier : ∀ k r, k + 1 < out.history.length → out.history[k]? = some r → ¬ Met settings r
  exhausted_iff : out.state = .exhausted out.history.length ↔
    out.history.length = settings.iterations ∧ ∀ r ∈ out.history, ¬ Met settings r

/-- A run that goes on. -/
structure Head.Going (settings : OptimizerSettings) (h : Head) : Prop where
  record : ∀ k r, h.history[k]? = some r → r.state = .running (k + 1) ∧ ¬ Met settings r
  budget : h.history.length < settings.iterations

section Run

variable {σ : Type} {o : Optimizer (StateM σ)} {h h' : Head} {r : IterationRecord} {es : List Event}

theorem Turn.going (turn : Turn o h h') (hg : h.Going o.settings) : h'.Going o.settings := by
  obtain ⟨ran, running, -⟩ := turn
  rw [ran.state, ran.iteration] at running
  obtain ⟨-, hmet, hleft⟩ := LoopState.step_eq_running_iff.1 running
  refine ⟨forall_getElem?_concat hg.record ⟨ran.state.trans running, ?_⟩, ?_⟩
  · intro h
    exact absurd (h.symm.trans hmet) Bool.noConfusion
  · rw [List.length_append]
    exact hleft

theorem going_of_reach {s : Specification} (hb : 0 < o.settings.iterations)
    (reach : ReflTransGen (Turn o) (.start s) h) : h.Going o.settings := by
  induction reach with
  | refl => exact ⟨by simp [Head.start], hb⟩
  | tail _ turn ih => exact turn.going ih

/-- A terminal state after an iteration: converged if the threshold was met, and else exhausted. -/
theorem Executed.terminal (ran : Executed o h r es) (ht : r.state.isTerminal = true) :
    r.state = .converged (h.history.length + 1) ∧ Met o.settings r ∨
      r.state = .exhausted (h.history.length + 1) ∧ ¬ Met o.settings r ∧
        o.settings.iterations ≤ h.history.length + 1 := by
  rw [ran.state] at ht ⊢
  cases hs : (LoopState.running h.history.length).step o.settings.stopPolicy r.report with
  | running n =>
    rw [hs] at ht
    exact absurd ht Bool.noConfusion
  | converged n =>
    obtain ⟨rfl, hmet⟩ := LoopState.step_eq_converged_iff.1 hs
    exact .inl ⟨rfl, hmet⟩
  | exhausted n =>
    obtain ⟨rfl, hmet, hb⟩ := LoopState.step_eq_exhausted_iff.1 hs
    refine .inr ⟨rfl, fun h => ?_, hb⟩
    exact absurd (h.symm.trans hmet) Bool.noConfusion

theorem course_of_finished (ran : Executed o h r es) (ht : r.state.isTerminal = true) (hn : Numbered h.history)
    (hg : h.Going o.settings) (runId : String) (ms : Nat) :
    Course o.settings ⟨h.current, h.history ++ [r], r.state, runId, ms⟩ := by
  have hbudget := hg.budget
  have hlen : (h.history ++ [r]).length = h.history.length + 1 := List.length_append
  have hlast : (h.history ++ [r]).getLast? = some r := List.getLast?_concat
  have hold : ∀ k r', k + 1 < (h.history ++ [r]).length → (h.history ++ [r])[k]? = some r' →
      h.history[k]? = some r' := by
    intro k r' hk hr'
    rwa [List.getElem?_append_left (by omega)] at hr'
  have hunmet : ∀ r' ∈ h.history, ¬ Met o.settings r' := by
    intro r' hr'
    obtain ⟨k, hk⟩ := List.mem_iff_getElem?.1 hr'
    exact (hg.record k r' hk).2
  have hconverged : r.state = .converged (h.history.length + 1) ↔ Met o.settings r := by
    rcases ran.terminal ht with ⟨hs, hm⟩ | ⟨hs, hm, -⟩ <;> simp [hs, hm]
  have hexhausted : r.state = .exhausted (h.history.length + 1) ↔
      h.history.length + 1 = o.settings.iterations ∧ ¬ Met o.settings r := by
    rcases ran.terminal ht with ⟨hs, hm⟩ | ⟨hs, hm, hb⟩
    · simp [hs, hm]
    · simp [hs, hm]
      omega
  exact
    { nonempty := by rw [hlen]; omega
      budget := by rw [hlen]; omega
      numbered := ran.numbered hn
      running := fun k r' hk hr' => (hg.record k r' (hold k r' hk hr')).1
      last := by rw [hlast]; rfl
      ended := by rw [hlen]; exact (ran.terminal ht).imp And.left And.left
      converged_iff := by
        rw [hlen, hconverged, hlast]
        simp
      earlier := fun k r' hk hr' => (hg.record k r' (hold k r' hk hr')).2
      exhausted_iff := by
        rw [hlen, hexhausted]
        refine and_congr_right fun _ => ⟨fun hm r' hr' => ?_, fun hm => hm r (by simp)⟩
        rcases List.mem_append.1 hr' with hr' | hr'
        · exact hunmet r' hr'
        · rwa [List.mem_singleton.1 hr'] }

theorem Ends.budget {result : Except OptimizationAborted OptimizationOutcome} (ends : Ends o h result es)
    (hg : h.Going o.settings) : (historyOf result).length ≤ o.settings.iterations := by
  have hb := hg.budget
  cases ends <;> simp only [historyOf, List.length_append, List.length_singleton] <;> omega

end Run

theorem iterations_pos {settings : OptimizerSettings} (accepted : settings.check = .ok ()) :
    0 < settings.iterations := by
  unfold OptimizerSettings.check at accepted
  split_ifs at accepted with h1 h2
  omega

theorem fatal_step {policy : StopPolicy Float} {report : ResultReport Float} (fatal : report.fatal = true)
    (completed n : Nat) : (LoopState.running completed).step policy report ≠ .converged n := by
  intro h
  have hm := (LoopState.step_eq_converged_iff.1 h).2
  rw [ResultReport.meetsThreshold, if_pos fatal] at hm
  exact Bool.noConfusion hm

/-- With accepted settings a finished run has its course, and no run exceeds its budget: the host is run at most that
often, whatever it answers.  A fatal report never converges. -/
theorem optimize_course {σ : Type} (o : Optimizer (StateM σ)) (accepted : o.settings.check = .ok ())
    (s : Specification) (w : σ) :
    (∀ out, (o.optimize s w).1 = .ok out → Course o.settings out) ∧
    (rounds (o.transcript s w)).length ≤ o.settings.iterations ∧
    (∀ r ∈ historyOf (o.optimize s w).1, r.iteration ≤ o.settings.iterations) ∧
    (∀ h, ReflTransGen (Turn o) (.start s) h → h.history.length + 1 ≤ o.settings.iterations) ∧
    ∀ (policy : StopPolicy Float) (report : ResultReport Float), report.fatal = true →
      ∀ completed n, (LoopState.running completed).step policy report ≠ .converged n := by
  have hb := iterations_pos accepted
  have complete := (recorded_of_optimize o s w).length_eq
  have numbered := numbered_of_optimize o s w
  obtain ⟨h, reach, ends⟩ := optimize_ends o s w
  generalize o.transcript s w = es at ends complete ⊢
  have hg := going_of_reach hb reach
  have hle := ends.budget hg
  refine ⟨fun out hout => ?_, complete ▸ hle, fun r hr => ?_, fun h' reach' => ?_, fun _ _ fatal => fatal_step fatal⟩
  · rw [hout] at ends
    cases ends with
    | finished ran terminal runId ms => exact course_of_finished ran terminal (numbered_of_reach reach) hg runId ms
  · obtain ⟨k, hk⟩ := List.mem_iff_getElem?.1 hr
    have hlt := (List.getElem?_eq_some_iff.1 hk).1
    rw [numbered k r hk]
    omega
  · exact (going_of_reach hb reach').budget

/-- An optimizer with a budget of two iterations whose host can run nothing. -/
def stranded : Optimizer (StateM Unit) where
  orchestrator :=
    { host :=
        { name := "absent"
          run := fun _ => pure (.error (.submission "no host"))
          cleanUp := fun _ => pure (.ok ()) }
      skipPolicy := .countAsFailure
      surroundings := ⟨pure "", pure "", pure 0⟩ }
  provider :=
    { name := "silent"
      text := fun _ => pure (.error (.provider "no reply"))
      structured := fun _ => pure (.error (.provider "no reply")) }
  settings :=
    { model := "m", iterations := 2, minPassRate := 0, strategy := .errorFocused, feedbackPrompt := none
      snapshotPath := none }
  save := fun _ _ => pure (.ok ())

/-- A specification without cases. -/
def bare : Specification := { metadata := { name := "s" }, agent := { model := "m", systemPrompt := "p" } }

/-- Even with a threshold of 0 the budget is spent, and the run ends exhausted. -/
theorem optimize_stranded : ∃ out, (stranded.optimize bare ()).1 = .ok out ∧ out.state = .exhausted 2 := by
  obtain ⟨program, hc⟩ : ∃ program, Program.compile bare = .ok program := ⟨_, rfl⟩
  show ∃ out, (stranded.iterate "" 0 bare 0 [] ()).1 = .ok out ∧ _
  rw [iterate_ok hc]
  show ∃ out, (stranded.iterate "" 0 bare 1 [_] ()).1 = .ok out ∧ _
  rw [iterate_ok hc]
  exact ⟨_, rfl, rfl⟩

theorem optimize_course_stranded : stranded.settings.check = .ok () ∧
    ∃ out, (stranded.optimize bare ()).1 = .ok out ∧ out.state = .exhausted 2 ∧ Course stranded.settings out := by
  have accepted : stranded.settings.check = .ok () := by decide
  obtain ⟨out, hout, hs⟩ := optimize_stranded
  exact ⟨accepted, out, hout, hs, (optimize_course stranded accepted bare ()).1 out hout⟩

end AgentTrial.Optimizer
