import AgentTrial.Document.Decode
import AgentTrial.Report.Score

/-!
# Report — the result of one execution

Outcomes of the compiled units in order, the errors and answers gathered from them, and the share of them that passed.
The type of the numbers is a parameter; see `Score`.
-/

namespace AgentTrial

/-- How a unit ended. -/
inductive TaskState
  | passed
  | failed
  | skipped
  | errored
  deriving Repr, DecidableEq

namespace TaskState

/-- The word for a state. -/
def name : TaskState → String
  | passed => "passed"
  | failed => "failed"
  | skipped => "skipped"
  | errored => "errored"

/-- The states by their words. -/
def names : List (String × TaskState) := [passed, failed, skipped, errored].map fun s => (s.name, s)

end TaskState

/-- What skipped units count for. -/
inductive SkipPolicy
  /-- A skipped unit counts as one that did not pass. -/
  | countAsFailure
  /-- A skipped unit does not count. -/
  | exclude
  deriving Repr, DecidableEq, Inhabited

namespace SkipPolicy

/-- The word for a policy. -/
def name : SkipPolicy → String
  | countAsFailure => "count_as_failure"
  | exclude => "exclude"

/-- The policies by their words. -/
def names : List (String × SkipPolicy) := [countAsFailure, exclude].map fun p => (p.name, p)

/-- Decodes a policy. -/
def decode : Datum → Except Cause SkipPolicy := Datum.asVariant names

/-- Does a unit that ended this way count? -/
def counts : SkipPolicy → TaskState → Bool
  | exclude, .skipped => false
  | _, _ => true

end SkipPolicy

/-- An error of a unit, or of a whole submission when no case is named. -/
structure CapturedError where
  benchmark : Option String
  message : String
  stack : Option String
  deriving Repr, DecidableEq

/-- What the agent answered in a unit. -/
structure CapturedResponse where
  benchmark : String
  prompt : String
  systemPrompt : String
  response : String
  feedback : Option String
  deriving Repr, DecidableEq

/-- The result of a unit. -/
structure TaskOutcome where
  name : String
  state : TaskState
  durationMs : Nat
  error : Option CapturedError
  response : Option CapturedResponse
  deriving Repr, DecidableEq

/-- How many units ended in each way. -/
structure Summary where
  total : Nat
  passed : Nat
  failed : Nat
  skipped : Nat
  errored : Nat
  deriving Repr, DecidableEq

/-- The units that count under a policy. -/
def Summary.counted (s : Summary) : SkipPolicy → Nat
  | .countAsFailure => s.total
  | .exclude => s.total - s.skipped

/-- The number of outcomes in a state. -/
def countState (state : TaskState) (outcomes : List TaskOutcome) : Nat := outcomes.countP (·.state = state)

/-- The summary of outcomes. -/
def summarize (outcomes : List TaskOutcome) : Summary :=
  ⟨outcomes.length, countState .passed outcomes, countState .failed outcomes, countState .skipped outcomes,
    countState .errored outcomes⟩

/-- The share of passed outcomes among those that count; 0 when none does. -/
def passRate {α : Type} [Score α] (policy : SkipPolicy) (outcomes : List TaskOutcome) : α :=
  let counted := outcomes.countP fun o => policy.counts o.state
  if counted = 0 then Score.ofCount 0
  else Score.quotient (Score.ofCount (countState .passed outcomes)) (Score.ofCount counted)

/-- The result of one execution. -/
structure ResultReport (α : Type) where
  success : Bool
  outcomes : List TaskOutcome
  errors : List CapturedError
  responses : List CapturedResponse
  passRate : α
  skipPolicy : SkipPolicy
  /-- Did the submission fail as a whole? -/
  fatal : Bool
  /-- The digest of the units. -/
  programDigest : String
  durationMs : Nat
  deriving Repr

namespace ResultReport

variable {α : Type} [Score α]

/-- The report of a submission that could not be run. -/
def ofFailure (message : String) (policy : SkipPolicy) : ResultReport α where
  success := false
  outcomes := []
  errors := [⟨none, message, none⟩]
  responses := []
  passRate := Score.ofCount 0
  skipPolicy := policy
  fatal := true
  programDigest := ""
  durationMs := 0

/-- The summary of the outcomes. -/
def summary (r : ResultReport α) : Summary := summarize r.outcomes

/-- The pass rate in percent. -/
def passPercent (r : ResultReport α) : α := Score.times r.passRate (Score.ofCount 100)

/-- Does the pass rate reach a percentage?  The counts are compared and not the quotient, so that 4 of 5 are exactly
80 percent.  With nothing counted only a threshold of at most 0 is met, and a failed submission meets none. -/
def meetsThreshold (r : ResultReport α) (percent : α) : Bool :=
  if r.fatal then false
  else
    let counted := r.summary.counted r.skipPolicy
    if counted = 0 then Score.atMost percent (Score.ofCount 0)
    else
      Score.atMost (Score.times percent (Score.ofCount counted))
        (Score.times (Score.ofCount r.summary.passed) (Score.ofCount 100))

end ResultReport

end AgentTrial
