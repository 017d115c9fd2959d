import AgentTrial.Fault
import AgentTrial.Optimizer.Feedback
import AgentTrial.Optimizer.Loop
import AgentTrial.Optimizer.Request
import AgentTrial.Spec.Problem

/-!
# Settings — what an optimization runs with

Every setting is taken from the caller, else from the document, else from a default.  The result is checked as a whole,
and the first fault is told.
-/

namespace AgentTrial

/-- What the caller sets. -/
structure OptimizerOverrides where
  model : Option String := none
  iterations : Option Nat := none
  minPassRate : Option Float := none
  strategy : Option String := none
  feedbackPrompt : Option String := none
  snapshotPath : Option String := none
  deriving Repr, Inhabited

/-- The settings of an optimization. -/
structure OptimizerSettings where
  /-- The model that is asked for prompts. -/
  model : String
  iterations : Nat
  /-- The least pass rate in percent. -/
  minPassRate : Float
  strategy : FeedbackStrategy
  /-- A template in place of the default one. -/
  feedbackPrompt : Option String
  /-- Where the latest specification is written. -/
  snapshotPath : Option String
  deriving Repr, Inhabited

namespace OptimizerSettings

/-- The iterations when nothing else is set. -/
def defaultIterations : Nat := 3

/-- The threshold when nothing else is set. -/
def defaultMinPassRate : Float := 100

/-- The first unusable setting. -/
def check (s : OptimizerSettings) : Except SettingError Unit :=
  if Text.isBlankText s.model then .error ⟨"optimizer.model", "must not be empty"⟩
  else if s.iterations = 0 then .error ⟨"optimizer.iterations", "must be at least 1"⟩
  else if !Specification.within 0 100 s.minPassRate then
    .error ⟨"optimizer.minPassRate",
      Decimal.message.render s.minPassRate ++ " is not a percentage between 0 and 100"⟩
  else .ok ()

/-- The settings of a specification under overrides, unchecked. -/
def merge (s : Specification) (o : OptimizerOverrides) : OptimizerSettings :=
  let block := s.optimizer.getD {}
  { model := (o.model.or block.model).getD s.agent.model
    iterations := (o.iterations.or block.iterations).getD defaultIterations
    minPassRate := (o.minPassRate.or block.minPassRate).getD defaultMinPassRate
    strategy := .resolve (o.strategy.or block.strategy)
    feedbackPrompt := o.feedbackPrompt.or block.feedbackPrompt
    snapshotPath := o.snapshotPath }

/-- The settings of a specification under overrides. -/
def resolve (s : Specification) (o : OptimizerOverrides) : Except SettingError OptimizerSettings := do
  let settings := merge s o
  settings.check
  return settings

/-- When the optimization stops. -/
def stopPolicy (s : OptimizerSettings) : StopPolicy Float := ⟨s.iterations, s.minPassRate⟩

/-- The template of the requests; a blank one counts as none. -/
def template (s : OptimizerSettings) : String :=
  (s.feedbackPrompt.filter fun t => !Text.isBlankText t).getD Improvement.defaultTemplate

/-- The value tree of settings. -/
def toJson (s : OptimizerSettings) : Json :=
  .record ([("model", .text s.model), ("iterations", .nat s.iterations), ("min_pass_rate", .float s.minPassRate),
    ("strategy", .text s.strategy.name)] ++ Json.optional "feedback_prompt" (s.feedbackPrompt.map .text) ++
    Json.optional "snapshot_path" (s.snapshotPath.map .text))

end OptimizerSettings

end AgentTrial
