import AgentTrial.Optimizer.Run

/-!
# Simulation — optimizers that cannot be told apart

Two optimizers may act on states of different types.  If every step that one of them takes answers as the step of the
other one and keeps a relation between the states, so do their runs.  What a clean-up answers is never looked at, so of
that step nothing is asked but that it keeps the relation.

* `Matches`: computations with the same answer, from related states to related states.
* `Simulates`: optimizers whose steps match.
* `Simulates.optimize`: their runs match.
-/

namespace AgentTrial.Optimizer

variable {τ σ α β : Type}

/-- From related states the computations come to the same answer and to related states. -/
def Matches (R : τ → σ → Prop) (x : StateM τ α) (y : StateM σ α) : Prop :=
  ∀ p q, R p q → (x p).1 = (y q).1 ∧ R (x p).2 (y q).2

section Computations

variable {R : τ → σ → Prop}

theorem Matches.pure (a : α) : Matches R (pure a) (pure a) := fun _ _ h => ⟨rfl, h⟩

theorem Matches.bind {x : StateM τ α} {y : StateM σ α} {f : α → StateM τ β} {g : α → StateM σ β} (hx : Matches R x y)
    (hf : ∀ a, Matches R (f a) (g a)) : Matches R (x >>= f) (y >>= g) := by
  intro p q h
  obtain ⟨ha, hw⟩ := hx p q h
  show (f (x p).1 (x p).2).1 = (g (y q).1 (y q).2).1 ∧ R (f (x p).1 (x p).2).2 (g (y q).1 (y q).2).2
  rw [← ha]
  exact hf _ _ _ hw

/-- The answer of a computation does not matter if what comes after it does not look at it. -/
theorem Matches.ignore {x : StateM τ α} {y : StateM σ α} {f : StateM τ β} {g : StateM σ β}
    (hx : ∀ p q, R p q → R (x p).2 (y q).2) (hf : Matches R f g) : Matches R (x >>= fun _ => f) (y >>= fun _ => g) :=
  fun p q h => hf _ _ (hx p q h)

end Computations

/-- Optimizers with the same settings whose steps match. -/
structure Simulates (R : τ → σ → Prop) (o : Optimizer (StateM τ)) (o' : Optimizer (StateM σ)) : Prop where
  settings : o.settings = o'.settings
  skipPolicy : o.orchestrator.skipPolicy = o'.orchestrator.skipPolicy
  submissionId : Matches R o.orchestrator.surroundings.submissionId o'.orchestrator.surroundings.submissionId
  runId : Matches R o.orchestrator.surroundings.runId o'.orchestrator.surroundings.runId
  clock : Matches R o.orchestrator.surroundings.clock o'.orchestrator.surroundings.clock
  run : ∀ submission, Matches R (o.orchestrator.host.run submission) (o'.orchestrator.host.run submission)
  cleanUp : ∀ submission p q, R p q →
    R (o.orchestrator.host.cleanUp submission p).2 (o'.orchestrator.host.cleanUp submission q).2
  text : ∀ request, Matches R (o.provider.text request) (o'.provider.text request)
  save : ∀ path, o'.settings.snapshotPath = some path → ∀ t, Matches R (o.save path t) (o'.save path t)

namespace Simulates

variable {R : τ → σ → Prop} {o : Optimizer (StateM τ)} {o' : Optimizer (StateM σ)} (sim : Simulates R o o')

include sim

theorem record (current : Specification) (completed : Nat) (report : ResultReport Float) :
    o.record current completed report = o'.record current completed report := by
  rw [Optimizer.record, Optimizer.record, sim.settings]

theorem execute (units : List CompiledUnit) (provided : ProvidedValues) :
    Matches R (o.orchestrator.execute units provided) (o'.orchestrator.execute units provided) := by
  unfold Orchestrator.execute
  rw [sim.skipPolicy]
  refine sim.clock.bind fun start => ?_
  refine sim.submissionId.bind fun id => ?_
  refine (sim.run _).bind fun result => ?_
  refine Matches.ignore (sim.cleanUp _) ?_
  exact sim.clock.bind fun stop => .pure _

theorem snapshot (s : Specification) : Matches R (o.snapshot s) (o'.snapshot s) := by
  unfold Optimizer.snapshot
  rw [sim.settings]
  cases hp : o'.settings.snapshotPath with
  | none => exact .pure _
  | some path => exact sim.save path hp s

theorem improve (current : Specification) (report : ResultReport Float) :
    Matches R (o.improve current report) (o'.improve current report) := by
  unfold Optimizer.improve request
  rw [sim.settings]
  split
  · exact .pure _
  · refine (sim.text _).bind fun reply => ?_
    cases reply with
    | error f => exact .pure _
    | ok reply =>
      dsimp only
      split
      · exact .pure _
      · refine (sim.snapshot _).bind fun saved => ?_
        cases saved with
        | error f => exact .pure _
        | ok _ => exact .pure _

theorem finish (current : Specification) (state : LoopState) (history : List IterationRecord) (runId : String)
    (start : Nat) :
    Matches R (o.finish current state history runId start) (o'.finish current state history runId start) := by
  refine (sim.snapshot current).bind fun saved => ?_
  cases saved with
  | error f => exact .pure _
  | ok _ => exact sim.clock.bind fun stop => .pure _

/-- By induction on the budget that is left. -/
theorem iterate (runId : String) (start : Nat) (current : Specification) (completed : Nat)
    (history : List IterationRecord) :
    Matches R (o.iterate runId start current completed history) (o'.iterate runId start current completed history) := by
  induction hn : o'.settings.iterations - completed using Nat.strongRecOn
    generalizing current completed history with
  | ind n ih =>
    cases hc : Program.compile current with
    | error e =>
      rw [iterate_error hc, iterate_error hc]
      exact .pure _
    | ok program =>
      rw [iterate_ok hc, iterate_ok hc]
      refine (sim.execute _ _).bind fun report => ?_
      dsimp only
      rw [sim.record]
      cases hs : (o'.record current completed report).state with
      | running done =>
        refine (sim.improve _ _).bind fun next => ?_
        cases next with
        | error f => exact .pure _
        | ok next =>
          refine ih _ ?_ next done _ rfl
          rw [← hn]
          exact LoopState.left_lt_of_step hs
      | converged n => exact sim.finish _ _ _ _ _
      | exhausted n => exact sim.finish _ _ _ _ _

theorem optimize (s : Specification) : Matches R (o.optimize s) (o'.optimize s) := by
  refine sim.clock.bind fun start => ?_
  refine sim.runId.bind fun runId => ?_
  exact sim.iterate runId start s 0 []

end Simulates

end AgentTrial.Optimizer
