import AgentTrial.Spec.Problem
import Mathlib.Tactic.SplitIfs

/-!
# Problem — which problems a specification has

* `mem_toolProblems_iff`, `mem_benchmarkProblems_iff`: when a problem is reported, reference by reference.
* `problems_withSystemPrompt`: another prompt makes no problems, unless it is blank.
* `validate_eq_ok_iff`: what is valid has no problems.
-/

namespace AgentTrial

namespace Table

variable {α : Type} {k : String} {v : α} {t : Table α}

theorem mem_of_get? (h : get? k t = some v) : (k, v) ∈ t := by
  induction t with
  | nil => cases h
  | cons p t ih =>
    obtain ⟨k', v'⟩ := p
    rw [get?] at h
    split_ifs at h with hk
    · obtain rfl := Option.some.inj h
      simp [hk]
    · exact List.mem_cons_of_mem _ (ih h)

theorem get?_eq_none_iff : get? k t = none ↔ k ∉ t.keys := by
  induction t with
  | nil => simp [get?, keys]
  | cons p t ih =>
    obtain ⟨k', v'⟩ := p
    rw [get?]
    split_ifs with hk
    · simp [keys, hk]
    · rw [ih]
      simp [keys, Ne.symm hk]

theorem has_eq_false_iff : t.has k = false ↔ k ∉ t.keys := by
  rw [← get?_eq_none_iff, has]
  simp

end Table

theorem Benchmark.firstUserMessage?_eq_none_iff {b : Benchmark} :
    b.firstUserMessage? = none ↔ ∀ m ∈ b.messages, m.role ≠ .user := by
  simp [firstUserMessage?]

namespace Specification

variable {s : Specification} {b : Benchmark} {name : String} {tool : Tool} {p q : Problem}

theorem mem_demand_iff {ok : Bool} : p ∈ demand ok q ↔ ok = false ∧ p = q := by
  cases ok <;> simp [demand]

theorem demand_eq_nil_iff {ok : Bool} : demand ok q = [] ↔ ok = true := by
  cases ok <;> simp [demand]

theorem mem_toolProblems_iff : p ∈ s.toolProblems name tool ↔
    tool.output ∉ s.schemas.keys ∧ p = .unknownSchema (toolOwner name) tool.output ∨
      ∃ g, tool.generator = some g ∧ g ∉ s.generators.keys ∧ p = .unknownGenerator name g := by
  rw [toolProblems, List.mem_append, mem_demand_iff, Table.has_eq_false_iff]
  refine or_congr_right ?_
  cases tool.generator with
  | none => simp
  | some g => simp [mem_demand_iff, Table.has_eq_false_iff]

/-- The problems of a case: a name that is taken, no turn of the user, unknown references, a score out of range. -/
theorem mem_benchmarkProblems_iff {seen : List String} : p ∈ s.benchmarkProblems seen b ↔
    b.name ∈ seen ∧ p = .duplicateBenchmark b.name ∨
    (∀ m ∈ b.messages, m.role ≠ .user) ∧ p = .missingUserMessage b.name ∨
    (∃ t ∈ b.tools, t ∉ s.tools.keys ∧ p = .unknownTool b.name t) ∨
    b.judge.schema ∉ s.schemas.keys ∧ p = .unknownSchema (benchmarkOwner b.name) b.judge.schema ∨
    ∃ x, b.judge.minScore = some x ∧ within 0 1 x = false ∧
      p = .outOfRange s!"benchmark '{b.name}' minScore {Decimal.message.render x} must be between 0 and 1" := by
  have hmessage : b.firstUserMessage?.isSome = false ↔ ∀ m ∈ b.messages, m.role ≠ .user := by
    rw [← Benchmark.firstUserMessage?_eq_none_iff]
    simp
  unfold benchmarkProblems
  simp only [List.mem_append, List.mem_flatMap, mem_demand_iff, Table.has_eq_false_iff, hmessage, or_assoc]
  refine or_congr (by simp) (or_congr_right (or_congr_right (or_congr_right ?_)))
  cases b.judge.minScore with
  | none => simp
  | some x => simp [mem_demand_iff]

theorem mem_problems_of_tool (ht : (name, tool) ∈ s.tools) (hp : p ∈ s.toolProblems name tool) : p ∈ s.problems := by
  unfold problems
  simp only [List.mem_append]
  exact .inl (.inl (.inr (List.mem_flatMap.2 ⟨(name, tool), ht, hp⟩)))

theorem mem_benchmarksProblems {bs : List Benchmark} (hb : b ∈ bs) (hp : ∀ seen, p ∈ s.benchmarkProblems seen b) :
    ∀ seen, p ∈ s.benchmarksProblems seen bs := by
  induction bs with
  | nil => cases hb
  | cons b' bs ih =>
    intro seen
    rw [benchmarksProblems, List.mem_append]
    rcases List.mem_cons.1 hb with rfl | hb
    · exact .inl (hp seen)
    · exact .inr (ih hb _)

theorem mem_problems_of_benchmark (hb : b ∈ s.benchmarks) (hp : ∀ seen, p ∈ s.benchmarkProblems seen b) :
    p ∈ s.problems := by
  unfold problems
  simp only [List.mem_append]
  exact .inl (.inr (mem_benchmarksProblems hb hp []))

theorem benchmarksProblems_withSystemPrompt {prompt : String} (seen : List String) (bs : List Benchmark) :
    (s.withSystemPrompt prompt).benchmarksProblems seen bs = s.benchmarksProblems seen bs := by
  induction bs generalizing seen with
  | nil => rfl
  | cons b bs ih =>
    rw [benchmarksProblems, ih]
    rfl

/-- A prompt that is not blank makes no problems. -/
theorem problems_withSystemPrompt {prompt : String} (valid : s.problems = [])
    (notBlank : Text.isBlankText prompt = false) : (s.withSystemPrompt prompt).problems = [] := by
  simp only [problems, List.append_eq_nil_iff] at valid ⊢
  obtain ⟨⟨⟨⟨⟨hname, hmodel⟩, -⟩, htools⟩, hbenchmarks⟩, hoptimizer⟩ := valid
  refine ⟨⟨⟨⟨⟨hname, hmodel⟩, ?_⟩, htools⟩, ?_⟩, hoptimizer⟩
  · rw [systemPrompt_withSystemPrompt, notBlank]
    rfl
  · rw [benchmarksProblems_withSystemPrompt]
    exact hbenchmarks

/-- The prompt of a specification without problems is not blank. -/
theorem notBlank_of_problems (valid : s.problems = []) : Text.isBlankText s.agent.systemPrompt = false := by
  simp only [problems, List.append_eq_nil_iff] at valid
  have hprompt := valid.1.1.1.2
  cases hblank : Text.isBlankText s.agent.systemPrompt with
  | false => rfl
  | true =>
    rw [hblank] at hprompt
    cases hprompt

theorem notBlank_model_of_problems (valid : s.problems = []) : Text.isBlankText s.agent.model = false := by
  simp only [problems, List.append_eq_nil_iff] at valid
  have hmodel := valid.1.1.1.1.2
  cases hblank : Text.isBlankText s.agent.model with
  | false => rfl
  | true =>
    rw [hblank] at hmodel
    cases hmodel

/-- The ranges of the optimizer settings; their model is not looked at. -/
theorem optimizerProblems_eq_nil_iff {o : OptimizerBlock} :
    optimizerProblems o = [] ↔ (∀ x ∈ o.minPassRate, within 0 100 x = true) ∧ o.iterations ≠ some 0 := by
  rw [optimizerProblems, List.append_eq_nil_iff, demand_eq_nil_iff, bne_iff_ne]
  refine and_congr_left fun _ => ?_
  cases o.minPassRate with
  | none => simp
  | some x => simp [demand_eq_nil_iff]

theorem optimizerProblems_of_problems {o : OptimizerBlock} (valid : s.problems = []) (h : s.optimizer = some o) :
    optimizerProblems o = [] := by
  simp only [problems, List.append_eq_nil_iff, h] at valid
  exact valid.2

theorem validate_eq_ok_iff : s.validate = .ok () ↔ s.problems = [] := by
  unfold validate
  cases s.problems <;> simp

end Specification

end AgentTrial
