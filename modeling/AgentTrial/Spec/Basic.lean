import AgentTrial.Spec.Property

/-!
# Basic — agent specifications

A specification describes an agent, the simulated tools it may call, the benchmark cases it is judged on and the
settings of the optimizer that improves its prompt.
-/

namespace AgentTrial

/-- How the agent picks tools. -/
inductive ToolChoice
  | auto
  | required
  | none
  deriving Repr, DecidableEq, Inhabited

/-- Who speaks in a message. -/
inductive Role
  | system
  | user
  | assistant
  deriving Repr, DecidableEq, Inhabited

/-- What a specification is called. -/
structure Metadata where
  name : String
  version : String := "0.1.0"
  description : Option String := none
  deriving Repr, DecidableEq, Inhabited

/-- The agent under test. -/
structure Agent where
  model : String
  systemPrompt : String
  toolChoice : ToolChoice := .auto
  maxSteps : Option Nat := none
  deriving Repr, DecidableEq, Inhabited

/-- A prompt that synthesizes the output of a tool. -/
structure Generator where
  prompt : String
  model : Option String := none
  deriving Repr, DecidableEq, Inhabited

/-- A simulated tool.  Its output follows a schema of the specification. -/
structure Tool where
  description : String
  input : Table PropertyType := []
  output : String
  generator : Option String := none
  deriving Repr, Inhabited

/-- A turn of a conversation. -/
structure Message where
  role : Role
  content : String
  deriving Repr, DecidableEq, Inhabited

/-- How the outcome of a case is judged. -/
structure Judge where
  prompt : String
  schema : String
  minScore : Option Float := none
  model : Option String := none
  deriving Repr, Inhabited

/-- A benchmark case. -/
structure Benchmark where
  name : String
  messages : List Message
  tools : List String := []
  judge : Judge
  deriving Repr, Inhabited

/-- The optimizer settings of a document. -/
structure OptimizerBlock where
  model : Option String := none
  iterations : Option Nat := none
  strategy : Option String := none
  feedbackPrompt : Option String := none
  minPassRate : Option Float := none
  deriving Repr, Inhabited

/-- A specification. -/
structure Specification where
  metadata : Metadata
  schemas : Table PropertyType := []
  generators : Table Generator := []
  agent : Agent
  tools : Table Tool := []
  benchmarks : List Benchmark := []
  optimizer : Option OptimizerBlock := none
  deriving Repr, Inhabited

/-- The first turn of the user, which drives the agent. -/
def Benchmark.firstUserMessage? (b : Benchmark) : Option String :=
  (b.messages.find? (·.role = .user)).map (·.content)

namespace Specification

/-- The specification with another system prompt. -/
def withSystemPrompt (s : Specification) (prompt : String) : Specification :=
  { s with agent := { s.agent with systemPrompt := prompt } }

/-- The benchmark case of a name. -/
def benchmark? (s : Specification) (name : String) : Option Benchmark := s.benchmarks.find? (·.name = name)

@[simp] theorem systemPrompt_withSystemPrompt (s : Specification) (prompt : String) :
    (s.withSystemPrompt prompt).agent.systemPrompt = prompt := rfl

@[simp] theorem withSystemPrompt_self (s : Specification) : s.withSystemPrompt s.agent.systemPrompt = s := rfl

@[simp] theorem withSystemPrompt_withSystemPrompt (s : Specification) (p q : String) :
    (s.withSystemPrompt p).withSystemPrompt q = s.withSystemPrompt q := rfl

end Specification

/-! ## Equality

Tables are equal when they have the same names with equal values, in any order; numbers are compared as numbers, so
one that is no number equals nothing. -/

/-- Equality of tables up to order. -/
def Table.same {α : Type} (eq : α → α → Bool) (t u : Table α) : Bool :=
  t.length == u.length && t.all fun (k, v) => (Table.get? k u).any (eq v)

/-- Equality of optional numbers. -/
def sameNumber : Option Float → Option Float → Bool
  | none, none => true
  | some x, some y => x == y
  | _, _ => false

/-- Equality of tools. -/
def Tool.same (a b : Tool) : Bool :=
  a.description == b.description && Table.same PropertyType.same a.input b.input && a.output == b.output &&
    a.generator == b.generator

/-- Equality of judges. -/
def Judge.same (a b : Judge) : Bool :=
  a.prompt == b.prompt && a.schema == b.schema && sameNumber a.minScore b.minScore && a.model == b.model

/-- Equality of cases. -/
def Benchmark.same (a b : Benchmark) : Bool :=
  a.name == b.name && decide (a.messages = b.messages) && a.tools == b.tools && a.judge.same b.judge

/-- Equality of optimizer settings. -/
def OptimizerBlock.same (a b : OptimizerBlock) : Bool :=
  a.model == b.model && a.iterations == b.iterations && a.strategy == b.strategy &&
    a.feedbackPrompt == b.feedbackPrompt && sameNumber a.minPassRate b.minPassRate

/-- Equality of lists by an equality of items. -/
def sameList {α : Type} (eq : α → α → Bool) : List α → List α → Bool
  | [], [] => true
  | a :: as, b :: bs => eq a b && sameList eq as bs
  | _, _ => false

/-- Equality of optional values. -/
def sameOption {α : Type} (eq : α → α → Bool) : Option α → Option α → Bool
  | none, none => true
  | some a, some b => eq a b
  | _, _ => false

/-- Equality of specifications. -/
def Specification.same (s t : Specification) : Bool :=
  decide (s.metadata = t.metadata) && Table.same PropertyType.same s.schemas t.schemas &&
    Table.same (fun a b => decide (a = b)) s.generators t.generators && decide (s.agent = t.agent) &&
    Table.same Tool.same s.tools t.tools && sameList Benchmark.same s.benchmarks t.benchmarks &&
    sameOption OptimizerBlock.same s.optimizer t.optimizer

end AgentTrial
