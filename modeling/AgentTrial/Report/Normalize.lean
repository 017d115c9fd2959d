import AgentTrial.Host.Report
import AgentTrial.Report.Basic

/-!
# Normalize — from a host's report to outcomes

Every unit gives one outcome.  A unit that failed or ended in an unknown way always has an error, one made up if the
host told of none.
-/

namespace AgentTrial

/-- The state that a host's word stands for. -/
def HostState.task : HostState → TaskState
  | pass => .passed
  | fail => .failed
  | skip => .skipped
  | unknown => .errored

namespace UnitReport

/-- The errors of a unit that its host told of. -/
def toldErrors (u : UnitReport) : List CapturedError := u.errors.map fun e => ⟨some u.name, e.message, e.stack⟩

/-- The message of the error that is made up for a state. -/
def missingError? : TaskState → Option String
  | .failed => some "test failed without reporting an error"
  | .errored => some "test host reported no terminal state"
  | _ => none

/-- The errors of a unit. -/
def captured (u : UnitReport) : List CapturedError :=
  match u.toldErrors, missingError? u.state.task with
  | [], some message => [⟨some u.name, message, none⟩]
  | es, _ => es

/-- A text below a value. -/
def textAt (key : String) (v : Json) : Option String := (v.get? key).bind Json.text?

/-- The answer that a unit noted. -/
def response? (u : UnitReport) : Option CapturedResponse := do
  let noted ← u.metadata
  let response ← (noted.get? "response").filter Json.isRecord
  return {
    benchmark := u.name
    prompt := (textAt "prompt" response).getD ""
    systemPrompt := (textAt "systemPrompt" response).getD ""
    response := (textAt "text" response).getD ""
    feedback := ((noted.get? "verdict").bind (textAt "feedback")).filter (· != "") }

/-- The outcome of a unit. -/
def outcome (u : UnitReport) : TaskOutcome :=
  ⟨u.name, u.state.task, u.durationMs, u.captured.head?, u.response?⟩

end UnitReport

/-- Does an outcome keep a run from being a success? -/
def TaskOutcome.spoils (policy : SkipPolicy) (o : TaskOutcome) : Bool :=
  !(o.state = .passed || (o.state = .skipped && policy = .exclude))

/-- The result of a run from the report of its host. -/
def normalize {α : Type} [Score α] (r : HostReport) (policy : SkipPolicy) : ResultReport α :=
  let outcomes := r.units.map UnitReport.outcome
  { success := r.success && !outcomes.any (·.spoils policy)
    outcomes
    errors := r.units.flatMap UnitReport.captured
    responses := outcomes.filterMap (·.response)
    passRate := passRate policy outcomes
    skipPolicy := policy
    fatal := false
    programDigest := ""
    durationMs := 0 }

end AgentTrial
