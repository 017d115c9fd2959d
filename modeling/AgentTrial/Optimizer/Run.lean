import AgentTrial.Optimizer.History
import AgentTrial.Optimizer.Settings
import AgentTrial.Provider.Basic
import AgentTrial.Report.Execute
import AgentTrial.Text.Fence

/-!
# Run — improving a prompt step by step

Each iteration compiles the current specification, runs it and scores the report.  While the run goes on, the provider
is asked for a better prompt after every report that the host could give; an empty reply keeps the prompt.  A changed
specification is written to the snapshot before it is tried, and the last one is written at the end.
-/

namespace AgentTrial

/-- A finished optimization. -/
structure OptimizationOutcome where
  /-- The last specification that was tried. -/
  specification : Specification
  history : List IterationRecord
  state : LoopState
  runId : String
  durationMs : Nat

namespace OptimizationOutcome

/-- Was the threshold met? -/
def converged (o : OptimizationOutcome) : Bool :=
  match o.state with
  | .converged _ => true
  | _ => false

/-- The last report. -/
def finalReport? (o : OptimizationOutcome) : Option (ResultReport Float) := o.history.getLast?.map (·.report)

/-- The pass rates in percent. -/
def scores (o : OptimizationOutcome) : List Float := o.history.map (·.report.passPercent)

end OptimizationOutcome

/-- An optimization that could not go on, with the iterations that were finished. -/
structure OptimizationAborted where
  fault : Fault
  history : List IterationRecord

/-- The sentence for an aborted optimization. -/
def OptimizationAborted.message (a : OptimizationAborted) : String :=
  "optimization aborted after " ++ toString a.history.length ++ " iteration(s): " ++ a.fault.message

/-- Improves the prompt of a specification. -/
structure Optimizer (m : Type → Type) where
  orchestrator : Orchestrator m
  provider : InferenceProvider m
  settings : OptimizerSettings
  /-- Writes a specification to a path. -/
  save : String → Specification → m (Except Fault Unit)

namespace Optimizer

variable {m : Type → Type} [Monad m]

/-- The request for a better prompt. -/
def request (o : Optimizer m) (current : Specification) (report : ResultReport Float) : TextRequest where
  model := o.settings.model
  system := some Improvement.systemPrompt
  prompt := Improvement.request o.settings.template current.agent.systemPrompt
    (Feedback.ofReport report o.settings.strategy)
  tools := []

/-- The prompt that a reply stands for; an empty one keeps the current prompt. -/
def adopt (current : Specification) (reply : String) : String :=
  let prompt := Text.unfence reply
  if prompt.isEmpty then current.agent.systemPrompt else prompt

/-- Writes the snapshot, if one is wanted. -/
def snapshot (o : Optimizer m) (s : Specification) : m (Except Fault Unit) :=
  match o.settings.snapshotPath with
  | some path => o.save path s
  | none => return .ok ()

/-- The specification for the next iteration. -/
def improve (o : Optimizer m) (current : Specification) (report : ResultReport Float) :
    m (Except Fault Specification) := do
  if report.fatal then return .ok current
  else
    match ← o.provider.text (o.request current report) with
    | .error f => return .error f
    | .ok reply =>
      let prompt := adopt current reply.text
      if prompt = current.agent.systemPrompt then return .ok current
      else
        let next := current.withSystemPrompt prompt
        match ← o.snapshot next with
        | .error f => return .error f
        | .ok () => return .ok next

/-- Ends a run. -/
def finish (o : Optimizer m) (current : Specification) (state : LoopState) (history : List IterationRecord)
    (runId : String) (start : Nat) : m (Except OptimizationAborted OptimizationOutcome) := do
  match ← o.snapshot current with
  | .error f => return .error ⟨f, history⟩
  | .ok () =>
    let stop ← o.orchestrator.surroundings.clock
    return .ok ⟨current, history, state, runId, stop - start⟩

/-- The record of an iteration after `completed` others. -/
def record (o : Optimizer m) (current : Specification) (completed : Nat) (report : ResultReport Float) :
    IterationRecord where
  iteration := completed + 1
  systemPrompt := current.agent.systemPrompt
  report
  state := (LoopState.running completed).step o.settings.stopPolicy report

/-- Runs iterations until the state is terminal; `completed` of them are done. -/
def iterate (o : Optimizer m) (runId : String) (start : Nat) (current : Specification) (completed : Nat)
    (history : List IterationRecord) : m (Except OptimizationAborted OptimizationOutcome) := do
  match Program.compile current with
  | .error e => return .error ⟨.compile e, history⟩
  | .ok program =>
    let report ← o.orchestrator.execute program.units (.ofSpec current)
    let record := o.record current completed report
    match _h : record.state with
    | .running done =>
      match ← o.improve current report with
      | .error f => return .error ⟨f, history ++ [record]⟩
      | .ok next => o.iterate runId start next done (history ++ [record])
    | state => o.finish current state (history ++ [record]) runId start
termination_by o.settings.iterations - completed
-- the state is running only while the budget is not spent
decreasing_by exact LoopState.left_lt_of_step _h

section Iterate

variable {o : Optimizer m} {current : Specification}

theorem iterate_error {e : CompileError} (h : Program.compile current = .error e) (runId : String)
    (start completed : Nat) (history : List IterationRecord) :
    o.iterate runId start current completed history = pure (.error ⟨.compile e, history⟩) := by
  rw [iterate, h]

theorem iterate_ok {program : SourceProgram} (h : Program.compile current = .ok program) (runId : String)
    (start completed : Nat) (history : List IterationRecord) :
    o.iterate runId start current completed history =
      (do
        let report ← o.orchestrator.execute program.units (.ofSpec current)
        let record := o.record current completed report
        match record.state with
        | .running done =>
          match ← o.improve current report with
          | .error f => return .error ⟨f, history ++ [record]⟩
          | .ok next => o.iterate runId start next done (history ++ [record])
        | state => o.finish current state (history ++ [record]) runId start) := by
  rw [iterate, h]
  dsimp only
  congr 1
  funext report
  split
  next done hs => rw [hs]
  next hs =>
    cases he : (o.record current completed report).state with
    | running done => exact absurd he (hs done)
    | converged n => rfl
    | exhausted n => rfl

end Iterate

/-- Improves the prompt of a specification.  The result is the last specification that was tried, never an earlier
one with a better score. -/
def optimize (o : Optimizer m) (s : Specification) : m (Except OptimizationAborted OptimizationOutcome) := do
  let start ← o.orchestrator.surroundings.clock
  let runId ← o.orchestrator.surroundings.runId
  o.iterate runId start s 0 []

end Optimizer

end AgentTrial
