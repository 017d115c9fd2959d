import AgentTrial.Decimal.Form
import AgentTrial.Document.Decode
import AgentTrial.Report.Basic
import AgentTrial.Text.Blank
import AgentTrial.Text.Excerpt

/-!
# Feedback — results as text for the improving model

Two ways to tell a model how its prompt did.  What the host reported is cut at limits, but for the lines that are kept of
a stack.
-/

namespace AgentTrial

/-- How results are told. -/
inductive FeedbackStrategy
  /-- States and errors of the cases. -/
  | errorFocused
  /-- Answers and judge feedback of the cases. -/
  | completionFocused
  deriving Repr, DecidableEq, Inhabited

namespace FeedbackStrategy

/-- The name of a strategy. -/
def name : FeedbackStrategy → String
  | errorFocused => "error-focused"
  | completionFocused => "completion-focused"

/-- The strategies by their names. -/
def names : List (String × FeedbackStrategy) := [errorFocused, completionFocused].map fun s => (s.name, s)

/-- The strategy of a name written in any way: only letters and digits count, and their case does not. -/
def ofName? (s : String) : Option FeedbackStrategy :=
  let bare := String.ofList ((s.toList.filter Char.isAlphanum).map Char.toLower)
  if ["errorfocused", "error", "errors"].contains bare then some errorFocused
  else if ["completionfocused", "completion", "completions"].contains bare then some completionFocused
  else none

/-- The strategy of a setting; one that nothing names is the error focused one. -/
def resolve (s : Option String) : FeedbackStrategy := (s.bind ofName?).getD errorFocused

end FeedbackStrategy

/-- The texts of an improvement request. -/
structure FeedbackDocument where
  testResults : String
  responseData : String
  deriving Repr, DecidableEq

namespace Feedback

/-- The longest driving input that is repeated. -/
def promptLimit : Nat := 200

/-- The longest answer that is repeated. -/
def responseLimit : Nat := 500

/-- The longest system prompt that is repeated. -/
def systemLimit : Nat := 100

/-- The longest error message. -/
def errorLimit : Nat := 500

/-- The lines of a stack that are kept. -/
def stackLines : Nat := 3

/-- The first line: the pass rate. -/
def headline (r : ResultReport Float) : String :=
  "Pass rate: " ++ Decimal.renderTenths r.passPercent ++ "% (" ++ toString r.summary.passed ++ "/" ++
    toString (r.summary.counted r.skipPolicy) ++ " passed)\n"

/-- The first lines of a stack that are not blank. -/
def stackExcerpt (stack : String) : List String :=
  (((Text.lines stack.toList).map fun l => String.ofList (Text.trimChars l)).filter (· != "")).take stackLines

/-- The lines about the error of an outcome. -/
def errorText (e : CapturedError) : String :=
  let lines := (e.stack.map stackExcerpt).getD []
  "\n    Error: " ++ Text.excerpt errorLimit (Text.trim e.message) ++
    if lines.isEmpty then "" else "\n    Stack:\n      " ++ "\n      ".intercalate lines

/-- The results with the errors of the cases. -/
def errorSummary (r : ResultReport Float) : String :=
  headline r ++
    if r.fatal then
      String.join (r.errors.map fun e => "\nExecution failed: " ++ Text.excerpt errorLimit e.message)
    else
      String.join (r.outcomes.map fun o =>
        "\n- [" ++ o.state.name ++ "] " ++ o.name ++ (o.error.map errorText).getD "")

/-- The judge's part of an answer. -/
def judgeText (label : String) (r : CapturedResponse) : String :=
  (r.feedback.map fun f => label ++ Text.excerpt errorLimit f).getD ""

/-- The lines about a case and its answer. -/
def completionText (o : TaskOutcome) : String :=
  "\n### " ++ o.name ++ " (" ++ o.state.name ++ ")" ++
    (match o.response, o.error with
    | some r, _ =>
      "\nInput: " ++ Text.excerpt promptLimit r.prompt ++ "\nResponse: " ++ Text.excerpt responseLimit r.response ++
        judgeText "\nJudge: " r
    | none, some e =>
      if o.state = .passed then "" else "\nNo response captured: " ++ Text.excerpt errorLimit e.message
    | none, none => "") ++ "\n"

/-- The results with the answers of the cases. -/
def completionSummary (r : ResultReport Float) : String := headline r ++ String.join (r.outcomes.map completionText)

/-- What is said when no unit noted an answer. -/
def noResponses : String := "No responses were captured."

/-- The lines about an answer. -/
def responseText (r : CapturedResponse) : String :=
  "Case: " ++ r.benchmark ++ "\n  Input: " ++ Text.excerpt promptLimit r.prompt ++
    "\n  System prompt: " ++ Text.excerpt systemLimit r.systemPrompt ++
    "\n  Response: " ++ Text.excerpt responseLimit r.response ++ judgeText "\n  Judge feedback: " r ++ "\n\n"

/-- The answers in full. -/
def responseData (rs : List CapturedResponse) : String :=
  if rs.isEmpty then noResponses
  else .ofList (Text.trimEnd (String.join (rs.map responseText)).toList)

/-- The system prompts that the cases ran with. -/
def systemEcho (rs : List CapturedResponse) : String :=
  if rs.isEmpty then noResponses
  else "\n".intercalate (rs.map fun r =>
    r.benchmark ++ ": ran with system prompt \"" ++ Text.excerpt systemLimit r.systemPrompt ++ "\"")

/-- The texts for a report. -/
def ofReport (r : ResultReport Float) : FeedbackStrategy → FeedbackDocument
  | .errorFocused => ⟨errorSummary r, responseData r.responses⟩
  | .completionFocused => ⟨completionSummary r, systemEcho r.responses⟩

end Feedback

end AgentTrial
