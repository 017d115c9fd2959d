import AgentTrial.Decimal.Form
import AgentTrial.Program.Validator
import AgentTrial.Spec.Codec
import AgentTrial.Spec.Problem

/-!
# Emit — the lines of a generated program

A program is a list of lines.  The first names the specification, a preamble declares the imports, the provided
values, the agent and the schemas, and each benchmark case becomes one test block inside a suite.  User text enters a
line only as a string literal or, in the first line, as comment text.
-/

namespace AgentTrial

/-- Why a specification does not compile. -/
inductive CompileError
  | unresolvedTool (benchmark tool : String)
  | unresolvedSchema (owner schema : String)
  | unresolvedGenerator (tool generator : String)
  | missingUserMessage (benchmark : String)
  deriving Repr, DecidableEq

/-- The text of the reason. -/
def CompileError.message : CompileError → String
  | unresolvedTool benchmark tool => s!"benchmark '{benchmark}' uses undeclared tool '{tool}'"
  | unresolvedSchema owner schema => s!"{owner} references undeclared schema '{schema}'"
  | unresolvedGenerator tool generator => s!"tool '{tool}' references undeclared generator '{generator}'"
  | missingUserMessage benchmark => s!"benchmark '{benchmark}' has no user message to drive the agent"

namespace Program

/-- The variable of the environment that a program reads its provided values from. -/
def providedVariable : String := "AGENTSPEC_PROVIDED"

/-- A model name with its provider; the default one where it names none. -/
def qualifiedModel (model : String) : String :=
  if model.toList.contains ':' then model else "openai:" ++ model

/-- The first line. -/
def header (s : Specification) : String :=
  "// Generated by agentspec from " ++ Text.comment s.metadata.name ++ " v" ++ Text.comment s.metadata.version ++
    ". Do not edit."

/-- The line of a schema. -/
def schemaLine (schema : String × PropertyType) : String :=
  "  " ++ Text.literal schema.1 ++ ": " ++ schema.2.validator ++ ","

/-- The lines shared by all test blocks. -/
def preamble (s : Specification) : List String :=
  ["import \x7b describe, expect, test \x7d from \"vitest\";",
   "import \x7b createProviderRegistry, generateObject, generateText, tool \x7d from \"ai\";",
   "import \x7b anthropic \x7d from \"@ai-sdk/anthropic\";",
   "import \x7b openai \x7d from \"@ai-sdk/openai\";",
   "import \x7b z \x7d from \"zod\";",
   "",
   "const registry = createProviderRegistry(\x7b anthropic, openai \x7d);",
   "const provided: Record<string, unknown> = JSON.parse(process.env." ++ providedVariable ++ " ?? \"\x7b\x7d\");",
   "",
   "const MODEL = " ++ Text.literal (qualifiedModel s.agent.model) ++ ";",
   "const SYSTEM_PROMPT: string =",
   "  typeof provided.systemPrompt === \"string\"",
   "    ? provided.systemPrompt",
   "    : " ++ Text.literal s.agent.systemPrompt ++ ";",
   "",
   "const schemas = \x7b"] ++
  s.schemas.map schemaLine ++
  ["\x7d;"]

/-- The prompt that synthesizes the output of a tool without a generator. -/
def defaultToolPrompt (case : String) (name : String) (tool : Tool) : String :=
  "Simulate the tool \"" ++ name ++ "\" (" ++ tool.description ++ ") for benchmark \"" ++ case ++
    "\". Produce a realistic result."

/-- The prompt and the model that synthesize the output of a tool. -/
def toolSource (s : Specification) (case : String) (name : String) (tool : Tool) :
    Except CompileError (String × Option String) :=
  match tool.generator with
  | none => .ok (defaultToolPrompt case name tool, none)
  | some g =>
    match Table.get? g s.generators with
    | some generator => .ok (generator.prompt, generator.model)
    | none => .error (.unresolvedGenerator name g)

/-- A model as an expression; the model of the agent where none is given. -/
def modelExpression (model : Option String) : String :=
  match model with
  | some m => Text.literal (qualifiedModel m)
  | none => "MODEL"

/-- The lines that declare a tool. -/
def toolLines (name : String) (tool : Tool) (prompt : String) (model : Option String) : List String :=
  ["      " ++ Text.literal name ++ ": tool(\x7b",
   "        description: " ++ Text.literal tool.description ++ ",",
   "        parameters: " ++ PropertyType.objectValidator tool.input ++ ",",
   "        execute: async (input) => \x7b",
   "          const \x7b object \x7d = await generateObject(\x7b",
   "            model: registry.languageModel(" ++ modelExpression model ++ "),",
   "            schema: schemas[" ++ Text.literal tool.output ++ "],",
   "            prompt: " ++ Text.literal prompt ++ " + \"\\n\\nTool input:\\n\" + JSON.stringify(input),",
   "          \x7d);",
   "          return object;",
   "        \x7d,",
   "      \x7d),"]

/-- The declaration of a tool that a case permits. -/
def toolBlock (s : Specification) (case : String) (name : String) : Except CompileError (List String) :=
  match Table.get? name s.tools with
  | none => .error (.unresolvedTool case name)
  | some tool =>
    if s.schemas.has tool.output then do
      let (prompt, model) ← toolSource s case name tool
      return toolLines name tool prompt model
    else .error (.unresolvedSchema (toolOwner name) tool.output)

/-- The lines of the tools of a case. -/
def toolsLines (blocks : List (List String)) : List String :=
  if blocks.isEmpty then ["    const tools = \x7b\x7d;"]
  else "    const tools = \x7b" :: blocks.flatten ++ ["    \x7d;"]

/-- The lines of a test block. -/
def testLines (agent : Agent) (b : Benchmark) (input : String) (tools : List (List String)) : List String :=
  ["  test(" ++ Text.literal b.name ++ ", async (\x7b task \x7d) => \x7b",
   "    const prompt = " ++ Text.literal input ++ ";"] ++
  toolsLines tools ++
  ["",
   "    const result = await generateText(\x7b",
   "      model: registry.languageModel(MODEL),",
   "      system: SYSTEM_PROMPT,",
   "      prompt,",
   "      tools,"] ++
  (if b.tools.isEmpty then [] else ["      toolChoice: " ++ Text.literal agent.toolChoice.name ++ ","]) ++
  agent.maxSteps.elim [] (fun n => ["      maxSteps: " ++ toString n ++ ","]) ++
  ["    \x7d);",
   "",
   "    const meta = task.meta as Record<string, unknown>;",
   "    meta.response = \x7b prompt, systemPrompt: SYSTEM_PROMPT, text: result.text \x7d;",
   "",
   "    const \x7b object \x7d = await generateObject(\x7b",
   "      model: registry.languageModel(" ++ modelExpression b.judge.model ++ "),",
   "      schema: schemas[" ++ Text.literal b.judge.schema ++ "],",
   "      prompt:",
   "        " ++ Text.literal b.judge.prompt ++ " +",
   "        \"\\n\\nAgent result:\\n\" +",
   "        JSON.stringify(\x7b",
   "          text: result.text,",
   "          toolCalls: result.toolCalls,",
   "          toolResults: result.toolResults,",
   "          finishReason: result.finishReason,",
   "        \x7d),",
   "    \x7d);",
   "    const verdict = object as Record<string, any>;",
   "    meta.verdict = verdict;",
   "",
   "    expect(verdict.passed, verdict.feedback).toBe(true);"] ++
  b.judge.minScore.elim [] (fun x =>
    ["    expect(verdict.score).toBeGreaterThanOrEqual(" ++ Decimal.program.render x ++ ");"]) ++
  ["  \x7d);"]

/-- The test block of a case. -/
def caseBlock (s : Specification) (b : Benchmark) : Except CompileError (List String) :=
  match b.firstUserMessage? with
  | none => .error (.missingUserMessage b.name)
  | some input =>
    if s.schemas.has b.judge.schema then do
      let tools ← b.tools.mapM (toolBlock s b.name)
      return testLines s.agent b input tools
    else .error (.unresolvedSchema (benchmarkOwner b.name) b.judge.schema)

/-- The suite around test blocks, with an empty line between two of them. -/
def suite (s : Specification) (blocks : List (List String)) : List String :=
  ("describe(" ++ Text.literal s.metadata.name ++ ", () => \x7b") :: [""].intercalate blocks ++ ["\x7d);"]

/-- The lines of a program with these test blocks. -/
def lines (s : Specification) (blocks : List (List String)) : List String :=
  header s :: "" :: preamble s ++ "" :: suite s blocks

/-- Lines as a text; each ends with a line feed. -/
def unlines (ls : List String) : String := String.join (ls.map (· ++ "\n"))

end Program

end AgentTrial
