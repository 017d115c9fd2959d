import AgentTrial.Optimizer.Request
import AgentTrial.Proofs.Text.Template

/-!
# Request — what stands in a request

A request is its template with values put in, once and from the left.  Whatever the values are, no mark inside them is
looked at.

* `render_append_hole` and the four texts of the default template: where the prompt, the results and the answers go.
* `request_substitutes`: the cut of every template, what becomes of it, and the request of the default one.
-/

namespace AgentTrial.Improvement

open Text

/-- The default template before the current prompt. -/
def beforePrompt : String := "The following system prompt is used by an AI agent:\n\n<current_prompt>\n"

/-- The default template between the current prompt and the test results. -/
def beforeResults : String :=
  "\n</current_prompt>\n\nThe agent was run against its benchmark cases. Each case was judged by an evaluator.\n\n<test_results>\n"

/-- The default template between the test results and the answers. -/
def beforeResponses : String := "\n</test_results>\n\n<responses>\n"

/-- The default template after the answers. -/
def afterResponses : String :=
  "\n</responses>\n\nRewrite the system prompt so that the failing cases pass while the passing cases keep passing. Keep instructions that already work, fix the behaviours the evaluator criticised, and do not mention the tests or the evaluator in the prompt."

/-- The default template with texts in the places of its holes. -/
def withTexts (prompt results responses : String) : String :=
  beforePrompt ++ prompt ++ beforeResults ++ results ++ beforeResponses ++ responses ++ afterResponses

section DefaultTemplate

-- The four texts are compared as lists of characters, which is fast, but deep.
set_option maxRecDepth 4000

theorem ofList_seven (a b c d e f g : List Char) : String.ofList (a ++ b ++ c ++ d ++ e ++ f ++ g) =
    .ofList a ++ .ofList b ++ .ofList c ++ .ofList d ++ .ofList e ++ .ofList f ++ .ofList g := by
  simp only [String.ofList_append]

theorem defaultTemplate_eq : defaultTemplate =
    withTexts "\x7b\x7bcurrentPrompt\x7d\x7d" "\x7b\x7btestResults\x7d\x7d" "\x7b\x7bresponseData\x7d\x7d" := by
  refine Eq.trans ?_ (ofList_seven _ _ _ _ _ _ _)
  rfl

theorem notMem_ofList {c : Char} {l : List Char} (h : l.all (· != c) = true) : c ∉ (String.ofList l).toList := by
  rw [String.toList_ofList]
  intro hc
  simpa using List.all_eq_true.1 h c hc

theorem brace_notMem : '{' ∉ beforePrompt.toList ∧ '{' ∉ beforeResults.toList ∧ '{' ∉ beforeResponses.toList ∧
    '{' ∉ afterResponses.toList := by
  and_intros <;> exact notMem_ofList (by decide +kernel)

/-- In the default template, the values stand where its holes are. -/
theorem request_defaultTemplate (current : String) (feedback : FeedbackDocument) :
    request defaultTemplate current feedback = withTexts current feedback.testResults feedback.responseData := by
  have hprompt : "\x7b\x7bcurrentPrompt\x7d\x7d" = "\x7b\x7b" ++ "currentPrompt" ++ "\x7d\x7d" := by decide
  have hresults : "\x7b\x7btestResults\x7d\x7d" = "\x7b\x7b" ++ "testResults" ++ "\x7d\x7d" := by decide
  have hresponses : "\x7b\x7bresponseData\x7d\x7d" = "\x7b\x7b" ++ "responseData" ++ "\x7d\x7d" := by decide
  obtain ⟨hfirst, hsecond, hthird, hlast⟩ := brace_notMem
  rw [request, defaultTemplate_eq, withTexts, hprompt, hresults, hresponses]
  simp only [String.append_assoc]
  rw [render_append_hole hfirst (by decide), render_append_hole hsecond (by decide),
    render_append_hole hthird (by decide), render_of_notMem hlast]
  have hkeys : trim "currentPrompt" = "currentPrompt" ∧ trim "testResults" = "testResults" ∧
      trim "responseData" = "responseData" := by decide +kernel
  rw [hkeys.1, hkeys.2.1, hkeys.2.2, withTexts]
  simp only [String.append_assoc]
  rfl

end DefaultTemplate

/-- A template is filled in by one pass from the left.  There is one way to cut it into holes and a tail, which no
value has a part in; each hole becomes the value of its trimmed key or stays as it is, and nothing but those keys is
looked up.  The loop over byte offsets ends with that text and makes no cut inside a character.  So the default request
is the default template with three texts in the places of its holes, whatever is in them. -/
theorem request_substitutes :
    (∀ template : String, ∃ t : Template,
      (∀ u : Template, Template.Scans template.toList u.holes u.tail ↔ u = t) ∧
      (∀ lookup, (∃ pieces, List.Forall₂ (Hole.Filled lookup) t.holes pieces ∧
          (render template lookup).toList = pieces.flatten ++ t.tail) ∧
        (∀ result, Fills lookup template "" result ↔ result = render template lookup) ∧
        render template (fun key => if key ∈ t.holes.map Hole.name then lookup key else none) =
          render template lookup) ∧
      render template (fun _ => none) = template) ∧
    defaultTemplate =
      withTexts "\x7b\x7bcurrentPrompt\x7d\x7d" "\x7b\x7btestResults\x7d\x7d" "\x7b\x7bresponseData\x7d\x7d" ∧
    ∀ current feedback,
      request defaultTemplate current feedback = withTexts current feedback.testResults feedback.responseData := by
  refine ⟨fun template => ⟨.ofChars template.toList, Template.scans_iff, fun lookup => ⟨?_, fun _ => fills_iff, ?_⟩, ?_⟩,
    defaultTemplate_eq, request_defaultTemplate⟩
  · refine ⟨_, Template.forall₂_filled lookup _, ?_⟩
    rw [render, String.toList_ofList, Template.fill, List.flatMap_def]
  · refine congrArg String.ofList (Template.fill_congr fun x hx => ?_)
    rw [if_pos (List.mem_map_of_mem hx)]
  · have hscans := Template.scans_ofChars template.toList
    rw [render, Template.fill_none, hscans.text_eq, String.ofList_toList]

end AgentTrial.Improvement
