import AgentTrial.Report.Normalize
import Mathlib.Data.List.Forall2

/-!
# Capture — what a result keeps of the report of a host

Every unit is one outcome.  Its errors are those its host told of, with its name on them, and a unit that failed or
ended in an unknown way without telling why has one that stands for the reason.  Answers are kept of the units that
noted one.

* `UnitReport.ErrorGroup`: the errors of a unit.
* `UnitReport.Quotes`: the answer of a unit, from what it noted.
* `TaskOutcome.Records`: the outcome of a unit with these errors.
* `normalize_faithful`: the outcomes, errors and answers of a result are those of the units in their order.
-/

namespace AgentTrial

namespace Json

/-- The text of a record under a key, empty if there is none. -/
inductive Says (fields : List (String × Json)) (key : String) : String → Prop
  | text {s : String} (found : lookup key fields = some (.text s)) : Says fields key s
  | silent (absent : ∀ s, lookup key fields ≠ some (.text s)) : Says fields key ""

end Json

namespace UnitReport

/-- The errors of a unit: those that its host told of, or what stands for a reason that nobody told. -/
inductive ErrorGroup (u : UnitReport) : List CapturedError → Prop
  | told (some : u.errors ≠ []) : ErrorGroup u (u.errors.map fun e => ⟨u.name, e.message, e.stack⟩)
  | failed (untold : u.errors = []) (ended : u.state = .fail) :
      ErrorGroup u [⟨u.name, "test failed without reporting an error", none⟩]
  | unknown (untold : u.errors = []) (ended : u.state = .unknown) :
      ErrorGroup u [⟨u.name, "test host reported no terminal state", none⟩]
  | clear (untold : u.errors = []) (ended : u.state = .pass ∨ u.state = .skip) : ErrorGroup u []

/-- A unit noted an answer: there is a record under that name in its metadata. -/
def Answered (u : UnitReport) : Prop :=
  ∃ noted fields, u.metadata = some noted ∧ noted.get? "response" = some (.record fields)

/-- The answer of a unit: its name, and the texts that it noted. -/
inductive Quotes (u : UnitReport) (r : CapturedResponse) : Prop
  | intro {noted : Json} {fields : List (String × Json)} (metadata : u.metadata = some noted)
      (record : noted.get? "response" = some (.record fields)) (name : r.benchmark = u.name)
      (prompt : Json.Says fields "prompt" r.prompt) (systemPrompt : Json.Says fields "systemPrompt" r.systemPrompt)
      (response : Json.Says fields "text" r.response)
      (feedback : ∀ f, r.feedback = some f ↔
        f ≠ "" ∧ ∃ verdict, noted.get? "verdict" = some verdict ∧ verdict.get? "feedback" = some (.text f))

end UnitReport

/-- The outcome of a unit with a group of errors. -/
structure TaskOutcome.Records (o : TaskOutcome) (u : UnitReport) (group : List CapturedError) : Prop where
  name : o.name = u.name
  state : o.state = u.state.task
  duration : o.durationMs = u.durationMs
  error : o.error = group.head?
  explained : o.state = .failed ∨ o.state = .errored → o.error ≠ none
  answered : o.response.isSome = true ↔ u.Answered
  response : ∀ r, o.response = some r → u.Quotes r

/-! ## Texts -/

namespace Json

variable {key s : String}

theorem textAt_eq_some_iff {v : Json} : UnitReport.textAt key v = some s ↔ v.get? key = some (.text s) := by
  unfold UnitReport.textAt
  rw [Option.bind_eq_some_iff]
  constructor
  · rintro ⟨w, hw, hs⟩
    cases w with
    | text s' =>
      obtain rfl := Option.some.inj hs
      exact hw
    | _ => cases hs
  · intro h
    exact ⟨_, h, rfl⟩

theorem says_textAt (fields : List (String × Json)) (key : String) :
    Says fields key ((UnitReport.textAt key (.record fields)).getD "") := by
  cases ht : UnitReport.textAt key (.record fields) with
  | some s => exact .text (textAt_eq_some_iff.1 ht)
  | none =>
    refine .silent fun s hs => ?_
    have hget : (Json.record fields).get? key = some (.text s) := hs
    rw [textAt_eq_some_iff.2 hget] at ht
    cases ht

end Json

namespace UnitReport

variable {u : UnitReport}

/-! ## Errors -/

theorem errorGroup_captured (u : UnitReport) : u.ErrorGroup u.captured := by
  unfold captured toldErrors
  cases herrors : u.errors with
  | cons e es =>
    have htold : u.ErrorGroup (u.errors.map fun e => ⟨u.name, e.message, e.stack⟩) := .told (by simp [herrors])
    rw [herrors] at htold
    exact htold
  | nil =>
    cases hstate : u.state with
    | pass => exact .clear herrors (.inl hstate)
    | fail => exact .failed herrors hstate
    | skip => exact .clear herrors (.inr hstate)
    | unknown => exact .unknown herrors hstate

/-- A group of errors is empty only if the unit passed or was skipped. -/
theorem ErrorGroup.ne_nil {group : List CapturedError} (h : u.ErrorGroup group)
    (ended : u.state.task = .failed ∨ u.state.task = .errored) : group ≠ [] := by
  cases h with
  | told some => simpa using some
  | failed _ _ => exact List.cons_ne_nil _ _
  | unknown _ _ => exact List.cons_ne_nil _ _
  | clear _ good =>
    rcases good with hpass | hskip
    · rw [hpass] at ended
      simp [HostState.task] at ended
    · rw [hskip] at ended
      simp [HostState.task] at ended

/-! ## Answers -/

theorem response?_eq_of_record {noted : Json} {fields : List (String × Json)} (metadata : u.metadata = some noted)
    (record : noted.get? "response" = some (.record fields)) :
    u.response? = some {
      benchmark := u.name
      prompt := (textAt "prompt" (.record fields)).getD ""
      systemPrompt := (textAt "systemPrompt" (.record fields)).getD ""
      response := (textAt "text" (.record fields)).getD ""
      feedback := ((noted.get? "verdict").bind (textAt "feedback")).filter (· != "") } := by
  unfold response?
  rw [metadata]
  simp only [Option.bind_eq_bind, Option.bind_some, record]
  rfl

theorem answered_of_response? {r : CapturedResponse} (h : u.response? = some r) : u.Answered := by
  unfold response? at h
  obtain ⟨noted, hnoted, h⟩ := Option.bind_eq_some_iff.1 h
  obtain ⟨response, hresponse, -⟩ := Option.bind_eq_some_iff.1 h
  obtain ⟨hget, hrecord⟩ := Option.filter_eq_some_iff.1 hresponse
  cases response with
  | record fields => exact ⟨noted, fields, hnoted, hget⟩
  | _ => cases hrecord

theorem isSome_response?_iff : u.response?.isSome = true ↔ u.Answered := by
  constructor
  · intro h
    obtain ⟨r, hr⟩ := Option.isSome_iff_exists.1 h
    exact answered_of_response? hr
  · rintro ⟨noted, fields, metadata, record⟩
    rw [response?_eq_of_record metadata record]
    rfl

instance : DecidablePred Answered := fun _ => decidable_of_iff _ isSome_response?_iff

theorem quotes_of_response? {r : CapturedResponse} (h : u.response? = some r) : u.Quotes r := by
  obtain ⟨noted, fields, metadata, record⟩ := answered_of_response? h
  rw [response?_eq_of_record metadata record] at h
  obtain rfl := Option.some.inj h
  refine ⟨metadata, record, rfl, Json.says_textAt fields _, Json.says_textAt fields _, Json.says_textAt fields _,
    fun f => ?_⟩
  rw [Option.filter_eq_some_iff, Option.bind_eq_some_iff, bne_iff_ne]
  simp only [Json.textAt_eq_some_iff]
  exact and_comm

/-- There is one answer for each unit that noted one. -/
theorem quotes_filterMap (units : List UnitReport) :
    List.Forall₂ Quotes (units.filter (·.Answered)) (units.filterMap response?) := by
  induction units with
  | nil => exact .nil
  | cons u units ih =>
    cases hr : u.response? with
    | none =>
      have hanswered : ¬ u.Answered := by
        rw [← isSome_response?_iff, hr]
        exact Bool.false_ne_true
      rw [List.filter_cons_of_neg (by simpa using hanswered), List.filterMap_cons_none hr]
      exact ih
    | some r =>
      have hanswered : u.Answered := answered_of_response? hr
      rw [List.filter_cons_of_pos (by simpa using hanswered), List.filterMap_cons_some hr]
      exact .cons (quotes_of_response? hr) ih

/-! ## Outcomes -/

theorem records_outcome (u : UnitReport) : u.outcome.Records u u.captured := by
  refine ⟨rfl, rfl, rfl, rfl, fun ended => ?_, isSome_response?_iff, fun r => quotes_of_response?⟩
  have hgroup : u.captured ≠ [] := (errorGroup_captured u).ne_nil ended
  show u.captured.head? ≠ none
  rwa [ne_eq, List.head?_eq_none_iff]

theorem records_zip (units : List UnitReport) :
    List.Forall₂ (fun o x => TaskOutcome.Records o x.1 x.2) (units.map outcome) (units.zip (units.map captured)) := by
  induction units with
  | nil => exact .nil
  | cons u units ih => exact .cons (records_outcome u) ih

end UnitReport

/-- Nothing is lost of what a host reports, and nothing invented.  Every unit gives one outcome, in order, with its name,
state and duration, and with an error where it failed or ended in an unknown way.  The errors are those of the units one
after another, and an outcome has the first of its own.  The answers are those of the outcomes, one for each unit that
noted one. -/
theorem normalize_faithful {α : Type} [Score α] (r : HostReport) (policy : SkipPolicy) :
    ∃ groups, List.Forall₂ UnitReport.ErrorGroup r.units groups ∧
      (normalize (α := α) r policy).errors = groups.flatten ∧
      List.Forall₂ (fun o x => TaskOutcome.Records o x.1 x.2) (normalize (α := α) r policy).outcomes
        (r.units.zip groups) ∧
      (normalize (α := α) r policy).responses = (normalize (α := α) r policy).outcomes.filterMap (·.response) ∧
      List.Forall₂ UnitReport.Quotes (r.units.filter (·.Answered)) (normalize (α := α) r policy).responses := by
  refine ⟨r.units.map UnitReport.captured, ?_, List.flatMap_def .., ?_, rfl, ?_⟩
  · rw [List.forall₂_map_right_iff]
    exact List.forall₂_same.2 fun u _ => UnitReport.errorGroup_captured u
  · exact UnitReport.records_zip r.units
  · show List.Forall₂ _ _ ((r.units.map UnitReport.outcome).filterMap (·.response))
    rw [List.filterMap_map]
    exact UnitReport.quotes_filterMap r.units

end AgentTrial
