import AgentTrial.Command.Basic
import AgentTrial.Config.Basic
import AgentTrial.Json.Printer
import AgentTrial.Provider.Basic
import AgentTrial.Text.Fence

/-!
# Command — a provider that runs a command line

The request goes to the input of a command and the answer comes from its output.  A value tree is looked for in the
answer: it starts at the first bracket or brace, and whatever follows it is passed over.

* `findStructured_of_noBracket`: an answer without brackets and braces has no value tree.
-/

namespace AgentTrial.CommandProvider

/-- The input for a text: the system prompt, unless it is blank, and the prompt. -/
def textInput (r : TextRequest) : String :=
  match r.system with
  | some system =>
    if Text.isBlankText system then r.prompt
    else .ofList (Text.trimEnd system.toList) ++ "\n\n" ++ r.prompt
  | none => r.prompt

/-- The input for a value tree: the prompt and the schema. -/
def structuredInput (r : StructuredRequest) : String :=
  r.prompt ++ "\n\nRespond with only a JSON value matching this JSON Schema:\n" ++ r.schema.compact

/-- Does a value tree start here? -/
def opensValue (c : Char) : Bool := c = '{' || c = '['

/-- The first value tree in an answer. -/
def findStructured (reply : String) : Except Fault Json :=
  match (Text.unfenceChars reply.toList).dropWhile fun c => !opensValue c with
  | [] => .error (.provider "reply contains no JSON value")
  | s =>
    match Json.readFirst s with
    | (_, none) => .error (.provider "reply is not valid JSON:")
    | (d, some _) =>
      match d.asJson with
      | .ok v => .ok v
      | .error _ => .error (.provider "reply is not valid JSON:")

/-- The command line for a model. -/
def commandLine (c : ProviderConfig) (model : String) : List String :=
  c.command.map (Text.replaceAll ProviderConfig.modelHole model)

/-- The output of the command for an input. -/
def complete (c : ProviderConfig) (runner : CommandRunner) (model input : String) :
    StateM Store (Except Fault String) := do
  match ← runner ⟨commandLine c model, [], input, none, c.timeoutSecs⟩ with
  | .error e => return .error (.provider e.message)
  | .ok o =>
    if o.succeeded then return .ok o.output
    else
      return .error (.provider ("provider command exited with " ++ toString o.shownCode ++ ": " ++
        Text.trim o.errors))

/-- Answers a request for a text.  Nothing is known about the tokens. -/
def answerText (c : ProviderConfig) (runner : CommandRunner) (r : TextRequest) :
    StateM Store (Except Fault TextResponse) := do
  if r.tools.isEmpty then
    match ← complete c runner r.model (textInput r) with
    | .error f => return .error f
    | .ok text => return .ok ⟨Text.trim text, ⟨0, 0⟩⟩
  else return .error (.provider "the command provider does not support tool calling")

/-- Answers a request for a value tree. -/
def answerStructured (c : ProviderConfig) (runner : CommandRunner) (r : StructuredRequest) :
    StateM Store (Except Fault Json) := do
  match ← complete c runner r.model (structuredInput r) with
  | .error f => return .error f
  | .ok text => return findStructured text

/-- The provider that runs a command line. -/
def provider (c : ProviderConfig) (runner : CommandRunner) : InferenceProvider (StateM Store) where
  name := "command"
  text := answerText c runner
  structured := answerStructured c runner

theorem dropWhile_of_all {p : Char → Bool} {s : List Char} (h : ∀ c ∈ s, p c = true) : s.dropWhile p = [] := by
  induction s with
  | nil => rfl
  | cons c s ih => simp [h c (by simp), ih fun d hd => h d (by simp [hd])]

theorem findStructured_of_noBracket {reply : String}
    (h : ∀ c ∈ Text.unfenceChars reply.toList, opensValue c = false) :
    findStructured reply = .error (.provider "reply contains no JSON value") := by
  have hd : (Text.unfenceChars reply.toList).dropWhile (fun c => !opensValue c) = [] :=
    dropWhile_of_all fun c hc => by simp [h c hc]
  simp [findStructured, hd]

end AgentTrial.CommandProvider
