import AgentTrial.Optimizer.Feedback
import AgentTrial.Text.Template

/-!
# Request — asking for a better prompt

The request is a template with three holes: the current prompt, the test results and the answers.
-/

namespace AgentTrial.Improvement

/-- What the improving model is told about its task. -/
def systemPrompt : String :=
  "You are an expert prompt engineer. You rewrite system prompts for AI agents so that they pass their benchmark tests. Reply with the improved system prompt only, without commentary or code fences."

/-- The template that is used when none is configured. -/
def defaultTemplate : String :=
  "The following system prompt is used by an AI agent:\n\n<current_prompt>\n\x7b\x7bcurrentPrompt\x7d\x7d\n</current_prompt>\n\nThe agent was run against its benchmark cases. Each case was judged by an evaluator.\n\n<test_results>\n\x7b\x7btestResults\x7d\x7d\n</test_results>\n\n<responses>\n\x7b\x7bresponseData\x7d\x7d\n</responses>\n\nRewrite the system prompt so that the failing cases pass while the passing cases keep passing. Keep instructions that already work, fix the behaviours the evaluator criticised, and do not mention the tests or the evaluator in the prompt."

/-- The values of the holes. -/
def lookup (current : String) (feedback : FeedbackDocument) (key : String) : Option String :=
  if key = "currentPrompt" then some current
  else if key = "testResults" then some feedback.testResults
  else if key = "responseData" then some feedback.responseData
  else none

/-- The text of a request. -/
def request (template current : String) (feedback : FeedbackDocument) : String :=
  Text.render template (lookup current feedback)

end AgentTrial.Improvement
