import AgentTrial.Decimal.Form
import AgentTrial.Spec.Basic
import AgentTrial.Text.Blank

/-!
# Problem — what is wrong with a specification

Reference and range checks, reported in the order of the document.
-/

namespace AgentTrial

/-- A problem of a specification. -/
inductive Problem
  | required (field : String)
  | unknownTool (benchmark tool : String)
  | unknownSchema (owner schema : String)
  | unknownGenerator (tool generator : String)
  | duplicateBenchmark (name : String)
  | missingUserMessage (benchmark : String)
  | outOfRange (what : String)
  deriving Repr, DecidableEq

namespace Problem

/-- The text of a problem. -/
def message : Problem → String
  | required field => s!"field required: {field}"
  | unknownTool benchmark tool => s!"benchmark '{benchmark}' references unknown tool '{tool}'"
  | unknownSchema owner schema => s!"{owner} references unknown schema '{schema}'"
  | unknownGenerator tool generator => s!"tool '{tool}' references unknown generator '{generator}'"
  | duplicateBenchmark name => s!"duplicate benchmark name: {name}"
  | missingUserMessage benchmark => s!"benchmark '{benchmark}' has no user message"
  | outOfRange what => s!"value out of range: {what}"

end Problem

/-- How a tool is named as the owner of a reference. -/
def toolOwner (name : String) : String := s!"tool '{name}'"

/-- How a case is named as the owner of a reference. -/
def benchmarkOwner (name : String) : String := s!"benchmark '{name}'"

namespace Specification

/-- A problem if a condition fails. -/
def demand (ok : Bool) (p : Problem) : List Problem := if ok then [] else [p]

/-- Is the number at least `low` and at most `high`?  What is no number is not. -/
def within (low high x : Float) : Bool := low ≤ x && x ≤ high

/-- The problems of a tool. -/
def toolProblems (s : Specification) (name : String) (tool : Tool) : List Problem :=
  demand (s.schemas.has tool.output) (.unknownSchema (toolOwner name) tool.output) ++
    match tool.generator with
    | some g => demand (s.generators.has g) (.unknownGenerator name g)
    | none => []

/-- The problems of a case after the cases of the names `seen`. -/
def benchmarkProblems (s : Specification) (seen : List String) (b : Benchmark) : List Problem :=
  demand (!seen.contains b.name) (.duplicateBenchmark b.name) ++
    demand b.firstUserMessage?.isSome (.missingUserMessage b.name) ++
    b.tools.flatMap (fun t => demand (s.tools.has t) (.unknownTool b.name t)) ++
    demand (s.schemas.has b.judge.schema) (.unknownSchema (benchmarkOwner b.name) b.judge.schema) ++
    match b.judge.minScore with
    | some x =>
      demand (within 0 1 x)
        (.outOfRange s!"benchmark '{b.name}' minScore {Decimal.message.render x} must be between 0 and 1")
    | none => []

/-- The problems of the cases after the names `seen`. -/
def benchmarksProblems (s : Specification) : List String → List Benchmark → List Problem
  | _, [] => []
  | seen, b :: bs => s.benchmarkProblems seen b ++ s.benchmarksProblems (b.name :: seen) bs

/-- The problems of the optimizer settings. -/
def optimizerProblems (o : OptimizerBlock) : List Problem :=
  (match o.minPassRate with
    | some x =>
      demand (within 0 100 x)
        (.outOfRange s!"optimizer.minPassRate {Decimal.message.render x} must be between 0 and 100")
    | none => []) ++
    demand (o.iterations != some 0) (.outOfRange "optimizer.iterations must be at least 1")

/-- Every problem of a specification, in the order of the document. -/
def problems (s : Specification) : List Problem :=
  demand (!Text.isBlankText s.metadata.name) (.required "metadata.name") ++
    demand (!Text.isBlankText s.agent.model) (.required "agent.model") ++
    demand (!Text.isBlankText s.agent.systemPrompt) (.required "agent.systemPrompt") ++
    s.tools.flatMap (fun (name, tool) => s.toolProblems name tool) ++ s.benchmarksProblems [] s.benchmarks ++
    s.optimizer.elim [] optimizerProblems

/-- The first problem, if there is one. -/
def validate (s : Specification) : Except Problem Unit :=
  match s.problems with
  | [] => .ok ()
  | p :: _ => .error p

end Specification

end AgentTrial
