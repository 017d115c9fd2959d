import AgentTrial.Optimizer.History
import AgentTrial.Proofs.Report.Codec

/-!
# History — the history of a run, written and read

The state of a record is a record of its own, whose kind is a field of the same name.  It comes back with its kind and
its count, and so does the whole history, in order.

* `LoopState.decodes`: a state comes back from any document that shows its value tree.
* `IterationRecord.decodes_history`: and so does a history.
* `IterationRecord.history_restored`: it comes back from its text, and no two histories have one text.
-/

namespace AgentTrial

open Datum (Decodes)
open Fields (Restores)

namespace LoopState

/-- A state of some kind: the kind is found among the two fields, and the other one is the count. -/
theorem decodes_of_kind (kind : Nat → LoopState) {word : String} {n : Nat} (named : Datum.named kinds word = .ok kind)
    (key : (kind 0).countKey ≠ "state") (bounded : n ≤ Json.maxNat64) :
    Decodes decode (.record [("state", .text word), ((kind 0).countKey, .nat n)]) (kind n) := by
  have hcount : Decodes (countFields kind).decode (.record [((kind 0).countKey, .nat n)]) (kind n) :=
    ((restores_nat _ bounded).map kind).decodes
  intro d hd
  cases hd with
  | plain _ _ h => cases h
  | record hfields =>
    cases hfields with
    | cons hstate hword htail =>
      cases htail with
      | cons hkey hvalue hnil =>
        cases hnil
        rename_i k₁ d₁ k₂ d₂
        have hsplit : splitKind [(k₁, d₁), (k₂, d₂)] = .ok (some d₁, [(k₂, d₂)]) := by
          simp [splitKind, hstate, hkey, key, bind, Except.bind, pure, Except.pure]
        have hkind : d₁.asText = .ok word := Datum.decodes_text word d₁ hword
        have hrest := hcount (.record [(k₂, d₂)]) (.record (.cons hkey hvalue .nil))
        rw [decode, Datum.asFields]
        · simp only [bind, Except.bind, hsplit, hkind, named, hrest]
        · intro kind rest hlist
          cases hlist

theorem decodes {s : LoopState} (bounded : s.iterations ≤ Json.maxNat64) : Decodes decode s.toJson s := by
  cases s with
  | running n => exact decodes_of_kind running rfl (by decide) bounded
  | converged n => exact decodes_of_kind converged rfl (by decide) bounded
  | exhausted n => exact decodes_of_kind exhausted rfl (by decide) bounded

end LoopState

namespace IterationRecord

variable {r : IterationRecord} {history : List IterationRecord}

/-- Counts and durations of sixty-four bits. -/
structure Bounded (r : IterationRecord) : Prop where
  iteration : r.iteration ≤ Json.maxNat64
  report : r.report.Bounded
  state : r.state.iterations ≤ Json.maxNat64

/-- A record comes back from every document that shows its value tree. -/
theorem decodes (bounded : r.Bounded) : Decodes fields.decode r.toJson r :=
  (((((restores_nat "iteration" bounded.iteration).map mk).seq (restores_text "system_prompt" r.systemPrompt)
    (by simp)).seq (.required "report" (ResultReport.decodes bounded.report)) (by simp)).seq
    (.required "state" (LoopState.decodes bounded.state)) (by simp)).decodes

/-- And so does a history. -/
theorem decodes_history (bounded : ∀ r ∈ history, r.Bounded) :
    Decodes decodeHistory (historyToJson history) history :=
  Datum.decodes_list fun r hr => decodes (bounded r hr)

theorem numbersKept_toJson (bounded : r.Bounded) (passRate : (Json.float r.report.passRate).NumbersKept) :
    r.toJson.NumbersKept := by
  have hiteration : (Json.nat r.iteration).NumbersKept := Json.written_nat bounded.iteration
  have hstate : (Json.nat r.state.iterations).NumbersKept := Json.written_nat bounded.state
  simp [toJson, LoopState.toJson, hiteration, hstate, ResultReport.numbersKept_toJson bounded.report passRate]

theorem depth_toJson_le (r : IterationRecord) : r.toJson.depth ≤ 5 := by
  have hreport := r.report.depth_toJson_le
  refine Nat.succ_le_succ (Json.depthFields_le_iff.2 ?_)
  simp [hreport, LoopState.toJson, Json.depth, Json.depthFields, Json.nat]

/-- No history is nested too deep to be read. -/
theorem depth_historyToJson_le (history : List IterationRecord) : (historyToJson history).depth ≤ Json.maxDepth := by
  have hdepth : (historyToJson history).depth ≤ 6 :=
    Nat.succ_le_succ (Json.depthItems_le_iff.2 (List.forall_mem_map.2 fun r _ => r.depth_toJson_le))
  exact hdepth.trans (by decide)

/-- A history whose pass rates are finite comes back from its text: the same records in the same order.  Of the text
layer it is asked that it prints the finite pass rates and reads them back.  Whatever its pass rates are, it comes back
from every document that shows its value tree, and no two histories are written alike. -/
theorem history_restored (history : List IterationRecord) (bounded : ∀ r ∈ history, r.Bounded) :
    ((∀ r ∈ history, Decimal.isFinite r.report.passRate = true) →
      (∀ r ∈ history, Decimal.isFinite r.report.passRate = true → (Json.float r.report.passRate).NumbersKept) →
      Json.ofText decodeHistory (historyToJson history).pretty = .ok history) ∧
    (∀ d : Datum, d.Shows (historyToJson history) → decodeHistory d = .ok history) ∧
    ∀ history' : List IterationRecord, (∀ r ∈ history', r.Bounded) →
      historyToJson history' = historyToJson history → history' = history := by
  have hdecodes := decodes_history bounded
  refine ⟨fun finite layer => ?_, hdecodes, fun history' bounded' hsame => ?_⟩
  · have hkept : (historyToJson history).NumbersKept := by
      simpa [historyToJson] using fun r hr => numbersKept_toJson (bounded r hr) (layer r hr (finite r hr))
    have hread := Json.ofText_of_written decodeHistory (Json.written_prettyChars 0 hkept) Json.blank_nil
      (depth_historyToJson_le history)
    rw [List.append_nil] at hread
    exact hread.trans (hdecodes _ (Datum.shows_ofJson _))
  · have hread := decodes_history bounded' _ (Datum.shows_ofJson _)
    rw [hsame, hdecodes _ (Datum.shows_ofJson _)] at hread
    exact (Except.ok.inj hread).symm

/-- Two iterations, the second of which could not be run.  Of the two stacks one is empty and one is absent. -/
theorem history_restored_aborted : let history : List IterationRecord :=
    [⟨1, "Be brief.", ⟨false, [⟨"a", .failed, 12, some ⟨some "a", "boom", some ""⟩, none⟩,
        ⟨"b", .passed, 3, none, some ⟨"b", "Hi", "Be brief.", "", none⟩⟩], [⟨some "a", "boom", none⟩],
        [⟨"b", "Hi", "Be brief.", "", some ""⟩], 0.5, .exclude, false, "c0ffee", 15⟩, .running 1⟩,
      ⟨2, "", .ofFailure "no host" .countAsFailure, .exhausted 2⟩]
    Json.ofText decodeHistory (historyToJson history).pretty = .ok history := by
  intro history
  have bounded : ∀ r ∈ history, r.Bounded := by
    simp only [history, List.forall_mem_cons]
    exact ⟨⟨by decide, ⟨by decide, by decide⟩, by decide⟩, ⟨by decide, ⟨by decide, by decide⟩, by decide⟩, nofun⟩
  have finite : ∀ r ∈ history, Decimal.isFinite r.report.passRate = true := by
    simp only [history, List.forall_mem_cons]
    exact ⟨by decide, by decide, nofun⟩
  have half : Json.scanNumber false ['0', '.', '5'] = .ok (.float 0.5, []) := rfl
  have zero : Json.scanNumber false ['0', '.', '0'] = .ok (.float (Score.ofCount 0), []) := rfl
  have layer : ∀ r ∈ history, Decimal.isFinite r.report.passRate = true →
      (Json.float r.report.passRate).NumbersKept := by
    simp only [history, List.forall_mem_cons]
    exact ⟨fun _ => .float half, fun _ => .float zero, nofun⟩
  exact (history_restored history bounded).1 finite layer

end IterationRecord

end AgentTrial
