import AgentTrial.Optimizer.Feedback
import AgentTrial.Proofs.Decimal.Form
import AgentTrial.Proofs.Text.Trim
import AgentTrial.Report.Execute
import Mathlib.Algebra.GroupWithZero.Nat
import Mathlib.Algebra.Order.BigOperators.Group.List
import Mathlib.Algebra.Order.Group.Nat

/-!
# Feedback — how much is told of a result

Every text that a host reported is cut at a limit before it is told, all but one: of a stack, the first lines are told,
and a line has no limit.

* `CapturedError.stackSize`: the characters of the stack lines that are told of an error.
* `Feedback.size_ofReport_le`: what is told of a result is bounded by its names and stack lines.
* `Feedback.sum_stackSize_le`: the stack lines are told in full.
* `Feedback.size_bounded`: both for the result of a run, whatever its host reported.
* `Feedback.size_unbounded`: without the stack lines there is no bound.
-/

namespace AgentTrial

namespace Text

/-! ## Joined texts and lines -/

section Joined

variable {α : Type} {text : α → String} {size : α → Nat}

theorem length_join_le (as : List α) (h : ∀ a ∈ as, (text a).length ≤ size a) :
    (String.join (as.map text)).length ≤ (as.map size).sum := by
  rw [String.length_join, List.map_map]
  exact List.sum_le_sum h

/-- Texts in a row have a separator between any two of them. -/
theorem length_intercalate (separator : String) : ∀ ls : List String,
    (separator.intercalate ls).length = (ls.map String.length).sum + (ls.length - 1) * separator.length
  | [] => by simp
  | [l] => by simp
  | l :: m :: ls => by
    have ih := length_intercalate separator (m :: ls)
    rw [String.intercalate_cons_cons]
    simp only [String.length_append, List.map_cons, List.sum_cons, List.length_cons, Nat.add_sub_cancel,
      Nat.succ_mul] at ih ⊢
    omega

theorem sum_map_add_const (size : α → Nat) (c : Nat) (as : List α) :
    (as.map fun a => size a + c).sum = (as.map size).sum + as.length * c := by
  rw [List.sum_map_add, List.map_const', List.sum_replicate_nat]

end Joined

theorem splitLines_of_notMem {s : List Char} (h : '\n' ∉ s) : splitLines s = [s] := by
  induction s with
  | nil => rfl
  | cons c s ih =>
    rw [List.mem_cons, not_or] at h
    rw [splitLines, ih h.2]
    exact if_neg fun hc => h.1 hc.symm

/-- A text in which no line ends is one line. -/
theorem lines_of_notMem {s : List Char} (some : s ≠ []) (h : '\n' ∉ s) : lines s = [s] := by
  unfold lines
  rw [splitLines_of_notMem h]
  simp [some]

end Text

/-- The characters of the texts of an improvement request. -/
def FeedbackDocument.size (d : FeedbackDocument) : Nat := d.testResults.length + d.responseData.length

/-- The characters of the stack lines that are told of an error. -/
def CapturedError.stackSize (e : CapturedError) : Nat :=
  (((e.stack.map Feedback.stackExcerpt).getD []).map String.length).sum

/-- The characters of the stack lines that are told of an outcome. -/
def TaskOutcome.stackSize (o : TaskOutcome) : Nat := (o.error.map CapturedError.stackSize).getD 0

namespace Feedback

/-! ## What is told of an outcome -/

theorem length_name_le (s : TaskState) : s.name.length ≤ 7 := by
  cases s <;> decide

theorem length_judgeText_le (label : String) (r : CapturedResponse) :
    (judgeText label r).length ≤ label.length + errorLimit + 3 := by
  unfold judgeText
  cases r.feedback with
  | none => exact Nat.zero_le _
  | some f =>
    have hexcerpt := Text.length_excerpt_le errorLimit f
    simp only [Option.map_some, Option.getD_some, String.length_append]
    omega

theorem length_errorText_le (e : CapturedError) : (errorText e).length ≤ errorLimit + 60 + e.stackSize := by
  unfold errorText CapturedError.stackSize
  have hlines : ((e.stack.map stackExcerpt).getD []).length ≤ stackLines := by
    cases e.stack with
    | none => exact Nat.zero_le _
    | some s => exact List.length_take_le ..
  generalize (e.stack.map stackExcerpt).getD [] = lines at hlines ⊢
  have hmessage := Text.length_excerpt_le errorLimit (Text.trim e.message)
  have hjoined := Text.length_intercalate "\n      " lines
  have hlabel : "\n    Error: ".length = 12 := rfl
  have hheading : "\n    Stack:\n      ".length = 18 := rfl
  have hseparator : "\n      ".length = 7 := rfl
  simp only [String.length_append, hlabel, stackLines] at hlines ⊢
  split
  · have hempty : "".length = 0 := rfl
    omega
  · rw [String.length_append, hheading]
    rw [hseparator] at hjoined
    omega

theorem length_outcomeText_le (o : TaskOutcome) :
    ("\n- [" ++ o.state.name ++ "] " ++ o.name ++ (o.error.map errorText).getD "").length ≤
      o.name.length + o.stackSize + 1300 := by
  have hstate := length_name_le o.state
  have hopen : "\n- [".length = 4 := rfl
  have hclose : "] ".length = 2 := rfl
  have herror : ((o.error.map errorText).getD "").length ≤ errorLimit + 60 + o.stackSize := by
    unfold TaskOutcome.stackSize
    cases o.error with
    | none => exact Nat.zero_le _
    | some e => exact length_errorText_le e
  simp only [String.length_append, hopen, hclose, errorLimit] at herror ⊢
  omega

theorem length_completionText_le (o : TaskOutcome) : (completionText o).length ≤ o.name.length + 1300 := by
  have hstate := length_name_le o.state
  have hopen : "\n### ".length = 5 := rfl
  have hbracket : " (".length = 2 := rfl
  have hclose : ")".length = 1 := rfl
  have hend : "\n".length = 1 := rfl
  have hempty : "".length = 0 := rfl
  unfold completionText
  rcases o.response with - | r
  · rcases o.error with - | e
    · simp only [String.length_append, hopen, hbracket, hclose, hend, hempty]
      omega
    · have hmessage := Text.length_excerpt_le errorLimit e.message
      have hlabel : "\nNo response captured: ".length = 23 := rfl
      dsimp only
      split
      · simp only [String.length_append, hopen, hbracket, hclose, hend, hempty]
        omega
      · simp only [String.length_append, hopen, hbracket, hclose, hend, hlabel, errorLimit] at hmessage ⊢
        omega
  · have hprompt := Text.length_excerpt_le promptLimit r.prompt
    have hresponse := Text.length_excerpt_le responseLimit r.response
    have hjudge := length_judgeText_le "\nJudge: " r
    have hinput : "\nInput: ".length = 8 := rfl
    have hanswer : "\nResponse: ".length = 11 := rfl
    have hverdict : "\nJudge: ".length = 8 := rfl
    simp only [promptLimit, responseLimit, errorLimit, hverdict] at hprompt hresponse hjudge
    simp only [String.length_append, hopen, hbracket, hclose, hend, hinput, hanswer, promptLimit, responseLimit]
    omega

/-! ## What is told of an answer -/

theorem length_responseText_le (r : CapturedResponse) : (responseText r).length ≤ r.benchmark.length + 1400 := by
  have hprompt := Text.length_excerpt_le promptLimit r.prompt
  have hsystem := Text.length_excerpt_le systemLimit r.systemPrompt
  have hresponse := Text.length_excerpt_le responseLimit r.response
  have hjudge := length_judgeText_le "\n  Judge feedback: " r
  have hcase : "Case: ".length = 6 := rfl
  have hinput : "\n  Input: ".length = 10 := rfl
  have hran : "\n  System prompt: ".length = 18 := rfl
  have hanswer : "\n  Response: ".length = 13 := rfl
  have hverdict : "\n  Judge feedback: ".length = 19 := rfl
  have hend : "\n\n".length = 2 := rfl
  simp only [promptLimit, systemLimit, responseLimit, errorLimit, hverdict] at hprompt hsystem hresponse hjudge
  unfold responseText
  simp only [String.length_append, hcase, hinput, hran, hanswer, hend, promptLimit, systemLimit, responseLimit]
  omega

theorem length_echo_le (r : CapturedResponse) :
    (r.benchmark ++ ": ran with system prompt \"" ++ Text.excerpt systemLimit r.systemPrompt ++ "\"").length ≤
      r.benchmark.length + 130 := by
  have hsystem := Text.length_excerpt_le systemLimit r.systemPrompt
  have hran : ": ran with system prompt \"".length = 26 := rfl
  have hend : "\"".length = 1 := rfl
  simp only [String.length_append, hran, hend, systemLimit] at hsystem ⊢
  omega

theorem length_noResponses : noResponses.length = 27 := rfl

theorem length_responseData_le (rs : List CapturedResponse) :
    (responseData rs).length ≤ 30 + (rs.map fun r => r.benchmark.length + 1400).sum := by
  unfold responseData
  split
  · have := length_noResponses
    omega
  · have htexts := Text.length_join_le rs fun r _ => length_responseText_le r
    obtain ⟨trail, htrail, -⟩ := Text.exists_trimEnd (String.join (rs.map responseText)).toList
    have hlength := congrArg List.length htrail
    rw [List.length_append, String.length_toList] at hlength
    rw [String.length_ofList]
    omega

theorem length_systemEcho_le (rs : List CapturedResponse) :
    (systemEcho rs).length ≤ 30 + (rs.map fun r => r.benchmark.length + 1400).sum := by
  unfold systemEcho
  split
  · have := length_noResponses
    omega
  · have htexts := List.sum_le_sum (l := rs) fun r _ => length_echo_le r
    have hjoined := Text.length_intercalate "\n" (rs.map fun r =>
      r.benchmark ++ ": ran with system prompt \"" ++ Text.excerpt systemLimit r.systemPrompt ++ "\"")
    have hend : "\n".length = 1 := rfl
    rw [List.map_map, List.length_map, hend] at hjoined
    rw [Text.sum_map_add_const] at htexts ⊢
    simp only [Function.comp_def] at hjoined
    omega

/-! ## What is told of a result -/

variable (r : ResultReport Float)

/-- Each of the two counts of the first line has no more digits than there are outcomes, and one. -/
theorem length_headline_le : (headline r).length ≤ 1100 + r.outcomes.length * 2 := by
  have hpassed : r.summary.passed ≤ r.outcomes.length := List.countP_le_length
  have hcounted : r.summary.counted r.skipPolicy ≤ r.outcomes.length := by
    cases r.skipPolicy with
    | countAsFailure => exact Nat.le_refl _
    | exclude => exact Nat.sub_le ..
  have hrate := Decimal.length_renderTenths_le r.passPercent
  have digits {n : Nat} (h : n ≤ r.outcomes.length) : (toString n).length ≤ r.outcomes.length + 1 :=
    Decimal.length_toString_le (by omega) (Nat.lt_of_le_of_lt h (Nat.lt_trans (Nat.lt_succ_self _) Nat.lt_two_pow_self))
  have hpassedDigits := digits hpassed
  have hcountedDigits := digits hcounted
  have hlabel : "Pass rate: ".length = 11 := rfl
  have hpercent : "% (".length = 3 := rfl
  have hof : "/".length = 1 := rfl
  have hend : " passed)\n".length = 9 := rfl
  unfold headline
  simp only [String.length_append, hlabel, hpercent, hof, hend]
  omega

theorem length_failure_le (e : CapturedError) :
    ("\nExecution failed: " ++ Text.excerpt errorLimit e.message).length ≤ errorLimit + 30 := by
  have hmessage := Text.length_excerpt_le errorLimit e.message
  have hlabel : "\nExecution failed: ".length = 19 := rfl
  rw [String.length_append, hlabel]
  omega

theorem length_errorSummary_le : (errorSummary r).length ≤
    1100 + (r.outcomes.map fun o => o.name.length + o.stackSize + 1302).sum +
      if r.fatal then r.errors.length * (errorLimit + 30) else 0 := by
  have hheadline := length_headline_le r
  have houtcomes := Text.length_join_le r.outcomes fun o _ => length_outcomeText_le o
  have hfailures := Text.length_join_le r.errors fun e _ => length_failure_le e
  rw [Text.sum_map_add_const] at houtcomes ⊢
  rw [List.map_const', List.sum_replicate_nat] at hfailures
  unfold errorSummary
  rw [String.length_append]
  split <;> omega

theorem length_completionSummary_le : (completionSummary r).length ≤
    1100 + (r.outcomes.map fun o => o.name.length + o.stackSize + 1302).sum := by
  have hheadline := length_headline_le r
  have htext (o : TaskOutcome) : (completionText o).length ≤ o.name.length + o.stackSize + 1300 :=
    Nat.le_trans (length_completionText_le o) (by omega)
  have houtcomes := Text.length_join_le r.outcomes fun o _ => htext o
  rw [Text.sum_map_add_const] at houtcomes ⊢
  unfold completionSummary
  rw [String.length_append]
  omega

/-- What is told of a result is bounded by the names of its outcomes and answers, the stack lines that are told, and
its errors where the submission failed. -/
theorem size_ofReport_le (strategy : FeedbackStrategy) : (ofReport r strategy).size ≤
    1130 + (r.outcomes.map fun o => o.name.length + o.stackSize + 1302).sum +
      (r.responses.map fun c => c.benchmark.length + 1400).sum +
      if r.fatal then r.errors.length * (errorLimit + 30) else 0 := by
  unfold FeedbackDocument.size
  cases strategy with
  | errorFocused =>
    have hresults := length_errorSummary_le r
    have hanswers := length_responseData_le r.responses
    simp only [ofReport]
    omega
  | completionFocused =>
    have hresults := length_completionSummary_le r
    have hanswers := length_systemEcho_le r.responses
    simp only [ofReport]
    omega

/-! ## Stack lines -/

theorem stackSize_le_errorText (e : CapturedError) : e.stackSize ≤ (errorText e).length := by
  unfold errorText CapturedError.stackSize
  generalize (e.stack.map stackExcerpt).getD [] = lines
  cases lines with
  | nil => exact Nat.zero_le _
  | cons l ls =>
    have hjoined := Text.length_intercalate "\n      " (l :: ls)
    simp only [String.length_append, List.isEmpty_cons, Bool.false_eq_true, if_false]
    omega

/-- The stack lines that are told of a result are told in full. -/
theorem sum_stackSize_le (h : r.fatal = false) :
    (r.outcomes.map TaskOutcome.stackSize).sum ≤ (ofReport r .errorFocused).size := by
  have houtcome (o : TaskOutcome) : o.stackSize ≤
      ("\n- [" ++ o.state.name ++ "] " ++ o.name ++ (o.error.map errorText).getD "").length := by
    rw [String.length_append]
    unfold TaskOutcome.stackSize
    cases o.error with
    | none => exact Nat.zero_le _
    | some e => exact Nat.le_trans (stackSize_le_errorText e) (Nat.le_add_left _ _)
  have hsum := List.sum_le_sum (l := r.outcomes) fun o _ => houtcome o
  simp only [ofReport, errorSummary, FeedbackDocument.size, String.length_append, h, Bool.false_eq_true, if_false,
    String.length_join, List.map_map, Function.comp_def] at hsum ⊢
  omega

/-- A stack of one line is told in full. -/
theorem stackExcerpt_line {s : List Char} (some : s ≠ []) (line : '\n' ∉ s) (bare : Text.Bare s) :
    stackExcerpt (.ofList s) = [.ofList s] := by
  have htrim : Text.trimChars s = s := Text.Trims.eq ⟨⟨[], [], by simp, rfl, rfl⟩, bare⟩
  have htext : (String.ofList s != "") = true := by
    rw [bne_iff_ne, ← String.ofList_nil, ne_eq, String.ofList_inj]
    exact some
  unfold stackExcerpt
  rw [String.toList_ofList, Text.lines_of_notMem some line, List.map_singleton, htrim, List.filter_singleton, htext]
  rfl

/-- A stack of one line, so many characters long. -/
def longStack (n : Nat) : String := .ofList (List.replicate n 'x')

theorem stackExcerpt_longStack {n : Nat} (pos : 0 < n) : stackExcerpt (longStack n) = [longStack n] := by
  refine stackExcerpt_line (by simpa using Nat.ne_of_gt pos) ?_ ⟨fun c hc => ?_, fun c hc => ?_⟩
  · intro h
    cases List.eq_of_mem_replicate h
  · rw [List.eq_of_mem_replicate (List.mem_of_mem_head? hc)]
    rfl
  · rw [List.eq_of_mem_replicate (List.mem_of_getLast? hc)]
    rfl

/-- The report of a unit without a name that failed with such a stack. -/
def failedAt (n : Nat) : HostReport := ⟨false, [⟨"", .fail, 0, [⟨"", some (longStack n)⟩], none⟩]⟩

theorem outcomes_failedAt (n : Nat) (policy : SkipPolicy) : (normalize (α := Float) (failedAt n) policy).outcomes =
    [⟨"", .failed, 0, some ⟨some "", "", some (longStack n)⟩, none⟩] := by
  rfl

theorem responses_failedAt (n : Nat) (policy : SkipPolicy) :
    (normalize (α := Float) (failedAt n) policy).responses = [] := by
  rfl

theorem stackSize_failedAt {n : Nat} (pos : 0 < n) (policy : SkipPolicy) :
    (normalize (α := Float) (failedAt n) policy).outcomes.map TaskOutcome.stackSize = [n] := by
  have hlength : (longStack n).length = n := by rw [longStack, String.length_ofList, List.length_replicate]
  rw [outcomes_failedAt, List.map_singleton, TaskOutcome.stackSize, Option.map_some, Option.getD_some,
    CapturedError.stackSize, Option.map_some, Option.getD_some, stackExcerpt_longStack pos, List.map_singleton,
    List.sum_singleton, hlength]

/-! ## What is told of a run -/

/-- A run that could not be submitted has one error and no outcome. -/
theorem ofRun_of_fatal (policy : SkipPolicy) (result : Except Fault HostReport)
    (h : (ResultReport.ofRun (α := Float) policy result).fatal = true) :
    (ResultReport.ofRun (α := Float) policy result).errors.length = 1 ∧
      (ResultReport.ofRun (α := Float) policy result).outcomes = [] := by
  cases result with
  | ok report => cases h
  | error fault => exact ⟨rfl, rfl⟩

/-- A result may have more errors than outcomes.  They are told only of a failed submission, which has one. -/
theorem size_le_of_fatal (h : r.fatal = true → r.errors.length = 1) (strategy : FeedbackStrategy) :
    (ofReport r strategy).size ≤ 1660 + (r.outcomes.map fun o => o.name.length + o.stackSize + 1400).sum +
      (r.responses.map fun c => c.benchmark.length + 1400).sum := by
  have hreport := size_ofReport_le r strategy
  have hfatal : (if r.fatal then r.errors.length * (errorLimit + 30) else 0) ≤ 530 := by
    split
    · rename_i hr
      rw [h hr]
      decide
    · exact Nat.zero_le _
  simp only [Text.sum_map_add_const] at hreport ⊢
  omega

/-- Stack lines with a limit are part of the constant. -/
theorem sum_le_of_short {outcomes : List TaskOutcome} {limit : Nat} (short : ∀ o ∈ outcomes, o.stackSize ≤ limit)
    (c : Nat) : (outcomes.map fun o => o.name.length + o.stackSize + c).sum ≤
      (outcomes.map fun o => o.name.length + (c + limit)).sum := by
  refine List.sum_le_sum fun o ho => ?_
  have hshort := short o ho
  omega

/-- What is told of a run, whatever its host reported: prompts, answers, system prompts, words of the judge and error
messages contribute no more than a constant for each outcome and each answer; the names count in full, and so do the
stack lines that are told.  So the names alone bound what is told as far as the stack lines are bounded. -/
theorem size_bounded (policy : SkipPolicy) (result : Except Fault HostReport) (digest : String) (duration : Nat)
    (strategy : FeedbackStrategy) :
    let r : ResultReport Float :=
      { ResultReport.ofRun policy result with programDigest := digest, durationMs := duration }
    (ofReport r strategy).size ≤ 1660 + (r.outcomes.map fun o => o.name.length + o.stackSize + 1400).sum +
        (r.responses.map fun c => c.benchmark.length + 1400).sum ∧
      (∀ limit, (∀ o ∈ r.outcomes, o.stackSize ≤ limit) →
        (ofReport r strategy).size ≤ 1660 + (r.outcomes.map fun o => o.name.length + (1400 + limit)).sum +
          (r.responses.map fun c => c.benchmark.length + (1400 + limit)).sum) ∧
      (r.outcomes.map TaskOutcome.stackSize).sum ≤ (ofReport r .errorFocused).size := by
  intro r
  have hsize := size_le_of_fatal r (fun h => (ofRun_of_fatal policy result h).1) strategy
  refine ⟨hsize, fun limit short => ?_, ?_⟩
  · have houtcomes := sum_le_of_short short 1400
    have hresponses : (r.responses.map fun c => c.benchmark.length + 1400).sum ≤
        (r.responses.map fun c => c.benchmark.length + (1400 + limit)).sum :=
      List.sum_le_sum fun c _ => by omega
    omega
  · cases h : r.fatal with
    | false => exact sum_stackSize_le r h
    | true =>
      have houtcomes : r.outcomes = [] := (ofRun_of_fatal policy result h).2
      rw [houtcomes]
      exact Nat.zero_le _

/-- A unit without a name that failed with a stack of three characters. -/
theorem size_bounded_three :
    (∀ o ∈ (normalize (α := Float) (failedAt 3) .exclude).outcomes, o.stackSize ≤ 3) ∧
      (ofReport (normalize (failedAt 3) .exclude) .errorFocused).size ≤ 1660 + (0 + (1400 + 3)) := by
  have hstack := stackSize_failedAt (n := 3) (by decide) .exclude
  have short : ∀ o ∈ (normalize (α := Float) (failedAt 3) .exclude).outcomes, o.stackSize ≤ 3 := by
    intro o ho
    have hmem := List.mem_map_of_mem (f := TaskOutcome.stackSize) ho
    rw [hstack, List.mem_singleton] at hmem
    exact Nat.le_of_eq hmem
  exact ⟨short, (size_bounded .exclude (.ok (failedAt 3)) "" 0 .errorFocused).2.1 3 short⟩

/-- The names of the outcomes and answers alone bound nothing: the one stack line of one unit may be longer than any
bound. -/
theorem size_unbounded : ¬ ∃ A B, ∀ (policy : SkipPolicy) (result : Except Fault HostReport) (digest : String)
    (duration : Nat) (strategy : FeedbackStrategy),
    let r : ResultReport Float :=
      { ResultReport.ofRun policy result with programDigest := digest, durationMs := duration }
    (ofReport r strategy).size ≤ A + (r.outcomes.map fun o => o.name.length + B).sum +
      (r.responses.map fun c => c.benchmark.length + B).sum := by
  rintro ⟨A, B, h⟩
  have hle := sum_stackSize_le (normalize (failedAt (A + B + 1)) .countAsFailure) rfl
  rw [stackSize_failedAt (Nat.succ_pos _), List.sum_singleton] at hle
  have hsize : (ofReport (normalize (failedAt (A + B + 1)) .countAsFailure) .errorFocused).size ≤ _ :=
    h .countAsFailure (.ok (failedAt (A + B + 1))) "" 0 .errorFocused
  have hname : "".length = 0 := rfl
  simp only [ResultReport.ofRun, outcomes_failedAt, responses_failedAt, List.map_singleton, List.sum_singleton,
    List.map_nil, List.sum_nil, hname] at hsize
  omega

end Feedback

end AgentTrial
