import AgentTrial.Spec.Problem

/-!
# Suite — building a specification by calls

A draft starts with a name and grows by calls of eight kinds.  Building it adds the default verdict schema where a
scenario relies on it, and then looks for problems.
-/

namespace AgentTrial

/-- A call on a scenario. -/
inductive ScenarioCall
  | user (content : String)
  | message (role : Role) (content : String)
  | tool (name : String)
  | judge (prompt : String)
  | judgeSchema (name : String)
  | judgeModel (model : String)
  | minScore (x : Float)

namespace Scenario

/-- The judge schema of scenarios that name none. -/
def defaultSchema : String := "Verdict"

/-- A scenario without calls. -/
def empty (name : String) : Benchmark := { name, messages := [], judge := { prompt := "", schema := defaultSchema } }

/-- The scenario after a call. -/
def apply (b : Benchmark) : ScenarioCall → Benchmark
  | .user content => { b with messages := b.messages ++ [⟨.user, content⟩] }
  | .message role content => { b with messages := b.messages ++ [⟨role, content⟩] }
  | .tool name => { b with tools := b.tools ++ [name] }
  | .judge prompt => { b with judge := { b.judge with prompt } }
  | .judgeSchema schema => { b with judge := { b.judge with schema } }
  | .judgeModel model => { b with judge := { b.judge with model := some model } }
  | .minScore x => { b with judge := { b.judge with minScore := some x } }

/-- The scenario of a name and calls. -/
def ofCalls (name : String) (calls : List ScenarioCall) : Benchmark := calls.foldl apply (empty name)

end Scenario

/-- A call on a suite. -/
inductive SuiteCall
  | version (v : String)
  | description (d : String)
  | agent (model prompt : String)
  | toolChoice (c : ToolChoice)
  | maxSteps (n : Nat)
  | schema (name : String) (p : PropertyType)
  | generator (name : String) (g : Generator)
  | tool (name : String) (t : Tool)
  | scenario (b : Benchmark)
  | optimizer (o : OptimizerBlock)

/-- A specification that is being built. -/
structure Suite where
  metadata : Metadata
  agent : Option Agent
  schemas : Table PropertyType
  generators : Table Generator
  tools : Table Tool
  scenarios : List Benchmark
  optimizer : Option OptimizerBlock

namespace Suite

/-- A suite without calls. -/
def define (name : String) : Suite := ⟨{ name }, none, [], [], [], [], none⟩

/-- The suite after a call.  Settings of the agent are lost when there is no agent yet. -/
def apply (s : Suite) : SuiteCall → Suite
  | .version v => { s with metadata := { s.metadata with version := v } }
  | .description d => { s with metadata := { s.metadata with description := some d } }
  | .agent model prompt => { s with agent := some { model, systemPrompt := prompt } }
  | .toolChoice c => { s with agent := s.agent.map fun a => { a with toolChoice := c } }
  | .maxSteps n => { s with agent := s.agent.map fun a => { a with maxSteps := some n } }
  | .schema name p => { s with schemas := Table.insert name p s.schemas }
  | .generator name g => { s with generators := Table.insert name g s.generators }
  | .tool name t => { s with tools := Table.insert name t s.tools }
  | .scenario b => { s with scenarios := s.scenarios ++ [b] }
  | .optimizer o => { s with optimizer := some o }

/-- The suite of a name and calls. -/
def ofCalls (name : String) (calls : List SuiteCall) : Suite := calls.foldl apply (define name)

/-- The default verdict schema. -/
def verdictSchema : PropertyType :=
  .object [("passed", .boolean), ("feedback", .string), ("score", .number)]

/-- The schemas with the default one, where it is used and not declared. -/
def allSchemas (s : Suite) : Table PropertyType :=
  if s.scenarios.any (·.judge.schema = Scenario.defaultSchema) && !s.schemas.has Scenario.defaultSchema then
    Table.insert Scenario.defaultSchema verdictSchema s.schemas
  else s.schemas

/-- The specification of a suite, unchecked. -/
def specification (s : Suite) : Specification where
  metadata := s.metadata
  schemas := s.allSchemas
  generators := s.generators
  agent := s.agent.getD { model := "", systemPrompt := "" }
  tools := s.tools
  benchmarks := s.scenarios
  optimizer := s.optimizer

/-- The specification of a suite, if it has no problem. -/
def build (s : Suite) : Except Problem Specification := do
  s.specification.validate
  return s.specification

end Suite

end AgentTrial
