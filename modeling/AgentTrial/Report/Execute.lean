import AgentTrial.Host.Basic
import AgentTrial.Report.Normalize

/-!
# Execute — running units through a host

An execution never fails: when the host cannot run a submission, the report says so.  The host cleans up after every
run, and what comes of that has no influence on the report.
-/

namespace AgentTrial

/-- What an execution takes from its surroundings. -/
structure Surroundings (m : Type → Type) where
  /-- An identifier that no submission had before. -/
  submissionId : m String
  /-- An identifier that no optimization had before. -/
  runId : m String
  /-- The time in milliseconds, from a fixed moment on. -/
  clock : m Nat

/-- Runs units through a host. -/
structure Orchestrator (m : Type → Type) where
  host : TestHost m
  skipPolicy : SkipPolicy
  surroundings : Surroundings m

/-- The report of a run that ended this way. -/
def ResultReport.ofRun {α : Type} [Score α] (policy : SkipPolicy) : Except Fault HostReport → ResultReport α
  | .ok r => normalize r policy
  | .error f => .ofFailure f.message policy

namespace Orchestrator

variable {m : Type → Type} [Monad m]

/-- Runs units with values and reports on them. -/
def execute (o : Orchestrator m) (units : List CompiledUnit) (provided : ProvidedValues) :
    m (ResultReport Float) := do
  let start ← o.surroundings.clock
  let submission : Submission := ⟨← o.surroundings.submissionId, units, provided⟩
  let result ← o.host.run submission
  let _ ← o.host.cleanUp submission
  let stop ← o.surroundings.clock
  let report : ResultReport Float := .ofRun o.skipPolicy result
  return { report with programDigest := Program.digestUnits units, durationMs := stop - start }

/-- Compiles a specification and runs it once with its own prompt. -/
def executeOnce (o : Orchestrator m) (s : Specification) : m (Except CompileError (ResultReport Float)) := do
  match Program.compile s with
  | .error e => return .error e
  | .ok program => return .ok (← o.execute program.units (.ofSpec s))

end Orchestrator

end AgentTrial
