import AgentTrial.Proofs.Json.Printer
import AgentTrial.Proofs.Spec.Codec
import AgentTrial.Report.Codec

/-!
# Codec — reports, written and read

Every part of a report is decoded from the value tree that it is written as: a text that is absent stays absent, and one
that is empty stays empty.

* `ResultReport.Bounded`: durations that can be written at all.
* `ResultReport.decodes`: a report comes back from any document that shows its value tree.
* `ResultReport.numbersKept_toJson`, `ResultReport.depth_toJson_le`: of its text it is the pass rate alone that has to be
  asked, and it is never nested too deep.
-/

namespace AgentTrial

open Datum (Decodes)
open Fields (Restores)

theorem Datum.decodes_bool (b : Bool) : Decodes asBool (.bool b) b := by
  intro d h
  cases h with
  | bool => rfl
  | plain _ _ h =>
    cases h with
    | bool h => simp [asBool, h]

theorem TaskState.named_name (s : TaskState) : Datum.named names s.name = .ok s := by
  cases s <;> decide

theorem SkipPolicy.decodes (p : SkipPolicy) : Decodes decode (.text p.name) p :=
  Datum.decodes_variant (by cases p <;> decide)

theorem restores_nat (key : String) {bound n : Nat} (h : n ≤ bound) :
    Restores (Fields.required key (Datum.asNat bound)) [key] [(key, .nat n)] n :=
  .required key (Datum.decodes_nat h)

@[simp] theorem Json.mem_optional {key : String} {o : Option Json} {e : String × Json} :
    e ∈ Json.optional key o ↔ ∃ v ∈ o, e = (key, v) := by
  cases o <;> simp [Json.optional]

/-! ## The parts of a report -/

namespace CapturedError

theorem decodes (e : CapturedError) : Decodes fields.decode e.toJson e := by
  have h := ((((restores_textOption "case" e.benchmark).map mk).seq (restores_text "message" e.message) (by simp)).seq
    (restores_textOption "stack" e.stack) (by simp)).decodes
  rwa [← List.append_cons] at h

theorem numbersKept_toJson (e : CapturedError) : e.toJson.NumbersKept := by
  simp [toJson]

theorem depth_toJson_le (e : CapturedError) : e.toJson.depth ≤ 1 := by
  refine Nat.succ_le_succ (Json.depthFields_le_iff.2 ?_)
  simp +contextual [or_imp, Json.depth]

end CapturedError

namespace CapturedResponse

theorem decodes (r : CapturedResponse) : Decodes fields.decode r.toJson r :=
  ((((((restores_text "case" r.benchmark).map mk).seq (.defaulted "prompt" (Datum.decodes_text r.prompt)) (by simp)).seq
    (.defaulted "system_prompt" (Datum.decodes_text r.systemPrompt)) (by simp)).seq
    (.defaulted "response" (Datum.decodes_text r.response)) (by simp)).seq (restores_textOption "feedback" r.feedback)
    (by simp)).decodes

theorem numbersKept_toJson (r : CapturedResponse) : r.toJson.NumbersKept := by
  simp [toJson]

theorem depth_toJson_le (r : CapturedResponse) : r.toJson.depth ≤ 1 := by
  refine Nat.succ_le_succ (Json.depthFields_le_iff.2 ?_)
  simp +contextual [or_imp, Json.depth]

end CapturedResponse

namespace TaskOutcome

variable {o : TaskOutcome}

theorem decodes (bounded : o.durationMs ≤ Json.maxNat64) : Decodes fields.decode o.toJson o :=
  ((((((restores_text "name" o.name).map mk).seq (.required "state" (Datum.decodes_variant o.state.named_name))
    (by simp)).seq (restores_nat "duration_ms" bounded) (by simp)).seq
    (.optional "error" CapturedError.toJson o.error fun e _ => ⟨nofun, e.decodes⟩) (by simp)).seq
    (.optional "response" CapturedResponse.toJson o.response fun r _ => ⟨nofun, r.decodes⟩) (by simp)).decodes

theorem numbersKept_toJson (bounded : o.durationMs ≤ Json.maxNat64) : o.toJson.NumbersKept := by
  have hduration : (Json.nat o.durationMs).NumbersKept := Json.written_nat bounded
  simp [toJson, hduration, CapturedError.numbersKept_toJson, CapturedResponse.numbersKept_toJson]

theorem depth_toJson_le (o : TaskOutcome) : o.toJson.depth ≤ 2 := by
  refine Nat.succ_le_succ (Json.depthFields_le_iff.2 ?_)
  simp +contextual [or_imp, Json.depth, Json.nat, CapturedError.depth_toJson_le, CapturedResponse.depth_toJson_le]

end TaskOutcome

namespace ResultReport

variable {r : ResultReport Float}

/-- Durations of sixty-four bits. -/
structure Bounded (r : ResultReport Float) : Prop where
  outcomes : ∀ o ∈ r.outcomes, o.durationMs ≤ Json.maxNat64
  duration : r.durationMs ≤ Json.maxNat64

/-- A report comes back from every document that shows its value tree. -/
theorem decodes (bounded : r.Bounded) : Decodes fields.decode r.toJson r := by
  have houtcomes := Datum.decodes_list fun (o : TaskOutcome) ho => TaskOutcome.decodes (bounded.outcomes o ho)
  have herrors := Datum.decodes_list fun (e : CapturedError) (_ : e ∈ r.errors) => e.decodes
  have hresponses := Datum.decodes_list fun (a : CapturedResponse) (_ : a ∈ r.responses) => a.decodes
  exact ((((((((((Restores.required "success" (Datum.decodes_bool r.success)).map mk).seq
    (.required "outcomes" houtcomes) (by simp)).seq (.required "errors" herrors) (by simp)).seq
    (.required "responses" hresponses) (by simp)).seq (.required "pass_rate" (Datum.decodes_float r.passRate))
    (by simp)).seq (.required "skip_policy" r.skipPolicy.decodes) (by simp)).seq
    (.defaulted "fatal" (Datum.decodes_bool r.fatal)) (by simp)).seq
    (.defaulted "program_digest" (Datum.decodes_text r.programDigest)) (by simp)).seq
    (.defaulted "duration_ms" (Datum.decodes_nat bounded.duration)) (by simp)).decodes

/-- Of the numbers of a report it is the pass rate alone that has to be asked. -/
theorem numbersKept_toJson (bounded : r.Bounded) (passRate : (Json.float r.passRate).NumbersKept) :
    r.toJson.NumbersKept := by
  have hduration : (Json.nat r.durationMs).NumbersKept := Json.written_nat bounded.duration
  have houtcomes : ∀ o ∈ r.outcomes, o.toJson.NumbersKept := fun o ho =>
    TaskOutcome.numbersKept_toJson (bounded.outcomes o ho)
  simpa [toJson, hduration, passRate, CapturedError.numbersKept_toJson, CapturedResponse.numbersKept_toJson]
    using houtcomes

theorem depth_toJson_le (r : ResultReport Float) : r.toJson.depth ≤ 4 := by
  have houtcomes : (Json.list (r.outcomes.map TaskOutcome.toJson)).depth ≤ 3 :=
    Nat.succ_le_succ (Json.depthItems_le_iff.2 (List.forall_mem_map.2 fun o _ => o.depth_toJson_le))
  have herrors : (Json.list (r.errors.map CapturedError.toJson)).depth ≤ 2 :=
    Nat.succ_le_succ (Json.depthItems_le_iff.2 (List.forall_mem_map.2 fun e _ => e.depth_toJson_le))
  have hresponses : (Json.list (r.responses.map CapturedResponse.toJson)).depth ≤ 2 :=
    Nat.succ_le_succ (Json.depthItems_le_iff.2 (List.forall_mem_map.2 fun a _ => a.depth_toJson_le))
  have hscalar (v : Json) (h : v.depth = 0) : v.depth ≤ 3 := h ▸ Nat.zero_le 3
  refine Nat.succ_le_succ (Json.depthFields_le_iff.2 ?_)
  simp only [List.forall_mem_cons]
  exact ⟨hscalar _ rfl, houtcomes, by omega, by omega, hscalar _ rfl, hscalar _ rfl, hscalar _ rfl, hscalar _ rfl,
    hscalar _ rfl, nofun⟩

end ResultReport

end AgentTrial
