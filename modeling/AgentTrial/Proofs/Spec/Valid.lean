import AgentTrial.Proofs.Decimal.Value
import AgentTrial.Proofs.Spec.Problem
import Mathlib.Data.List.Nodup

/-!
# Valid — what no problems mean, and how many there are

The list of problems is put together case by case, with the names seen so far.  It is empty exactly if names, references
and ranges are as they should be, and it names no fault more often than there is one.

* `Specification.Valid`: what a specification should have, said without the list.
* `problems_eq_nil_iff`: the list is empty exactly if it has all of that.
* `count_duplicateBenchmark`, `count_unknownTool`: how often a fault is listed.
* `problems_of_prompt`: another prompt adds or removes one problem and leaves the others.
-/

namespace AgentTrial

/-- A text with something in it. -/
def Text.Filled (s : String) : Prop := ∃ c ∈ s.toList, Text.isBlank c = false

theorem Text.filled_iff {s : String} : Filled s ↔ isBlankText s = false := by
  simp [Filled, isBlankText]

/-- A problem that only a case can have. -/
def Problem.OfCase : Problem → Prop
  | unknownTool .. | duplicateBenchmark _ | missingUserMessage _ => True
  | _ => False

namespace Specification

variable {s : Specification}

/-- A case that can be run and judged: a turn of the user drives it, what it refers to is declared, and its score is
one. -/
structure Admits (s : Specification) (b : Benchmark) : Prop where
  driven : ∃ m ∈ b.messages, m.role = .user
  tools : ∀ t ∈ b.tools, t ∈ s.tools.keys
  schema : b.judge.schema ∈ s.schemas.keys
  minScore : ∀ x ∈ b.judge.minScore, Decimal.Between 0 1 x

/-- A specification with names that are filled in, references that are declared, cases that differ by name, and numbers
within their ranges. -/
structure Valid (s : Specification) : Prop where
  name : Text.Filled s.metadata.name
  model : Text.Filled s.agent.model
  systemPrompt : Text.Filled s.agent.systemPrompt
  outputs : ∀ e ∈ s.tools, e.2.output ∈ s.schemas.keys
  generators : ∀ e ∈ s.tools, ∀ g ∈ e.2.generator, g ∈ s.generators.keys
  distinct : (s.benchmarks.map (·.name)).Nodup
  cases : ∀ b ∈ s.benchmarks, s.Admits b
  minPassRate : ∀ o ∈ s.optimizer, ∀ x ∈ o.minPassRate, Decimal.Between 0 100 x
  iterations : ∀ o ∈ s.optimizer, o.iterations ≠ some 0

/-! ## No problems -/

/-- The list of problems, with every entry of the table of tools taken as a pair. -/
theorem problems_eq (s : Specification) : s.problems =
    demand (!Text.isBlankText s.metadata.name) (.required "metadata.name") ++
      demand (!Text.isBlankText s.agent.model) (.required "agent.model") ++
      demand (!Text.isBlankText s.agent.systemPrompt) (.required "agent.systemPrompt") ++
      s.tools.flatMap (fun e => s.toolProblems e.1 e.2) ++ s.benchmarksProblems [] s.benchmarks ++
      s.optimizer.elim [] optimizerProblems := rfl

theorem within_iff {low high x : Float} {v w : Rat} (hlow : Decimal.value? low = some v)
    (hhigh : Decimal.value? high = some w) : within low high x = true ↔ Decimal.Between v w x := by
  rw [← Decimal.between_iff hlow hhigh, within, Bool.and_eq_true, decide_eq_true_eq, decide_eq_true_eq]

theorem toolProblems_eq_nil_iff {name : String} {tool : Tool} : s.toolProblems name tool = [] ↔
    tool.output ∈ s.schemas.keys ∧ ∀ g ∈ tool.generator, g ∈ s.generators.keys := by
  rw [List.eq_nil_iff_forall_not_mem]
  constructor
  · intro h
    refine ⟨?_, fun g hg => ?_⟩
    · by_contra hschema
      exact h _ (mem_toolProblems_iff.2 (.inl ⟨hschema, rfl⟩))
    · by_contra hgenerator
      exact h _ (mem_toolProblems_iff.2 (.inr ⟨g, hg, hgenerator, rfl⟩))
  · rintro ⟨houtput, hgenerator⟩ p hp
    rcases mem_toolProblems_iff.1 hp with ⟨hschema, -⟩ | ⟨g, hg, hundeclared, -⟩
    · exact hschema houtput
    · exact hundeclared (hgenerator g hg)

theorem benchmarkProblems_eq_nil_iff {seen : List String} {b : Benchmark} :
    s.benchmarkProblems seen b = [] ↔ b.name ∉ seen ∧ s.Admits b := by
  have hscore (x : Float) : within 0 1 x = true ↔ Decimal.Between 0 1 x :=
    within_iff Decimal.value?_zero Decimal.value?_one
  rw [List.eq_nil_iff_forall_not_mem]
  constructor
  · intro h
    refine ⟨fun hseen => h _ (mem_benchmarkProblems_iff.2 (.inl ⟨hseen, rfl⟩)), ?_, fun t ht => ?_, ?_, fun x hx => ?_⟩
    · by_contra hdriven
      exact h _ (mem_benchmarkProblems_iff.2 (.inr (.inl ⟨by simpa using hdriven, rfl⟩)))
    · by_contra htool
      exact h _ (mem_benchmarkProblems_iff.2 (.inr (.inr (.inl ⟨t, ht, htool, rfl⟩))))
    · by_contra hschema
      exact h _ (mem_benchmarkProblems_iff.2 (.inr (.inr (.inr (.inl ⟨hschema, rfl⟩)))))
    · by_contra hrange
      exact h _ (mem_benchmarkProblems_iff.2 (.inr (.inr (.inr (.inr
        ⟨x, hx, Bool.eq_false_iff.2 (mt (hscore x).1 hrange), rfl⟩)))))
  · rintro ⟨hnew, admits⟩ p hp
    rcases mem_benchmarkProblems_iff.1 hp with ⟨hseen, -⟩ | ⟨hmessage, -⟩ | ⟨t, ht, htool, -⟩ | ⟨hschema, -⟩ |
      ⟨x, hx, hrange, -⟩
    · exact hnew hseen
    · obtain ⟨m, hm, hrole⟩ := admits.driven
      exact hmessage m hm hrole
    · exact htool (admits.tools t ht)
    · exact hschema admits.schema
    · exact Bool.eq_false_iff.1 hrange ((hscore x).2 (admits.minScore x hx))

theorem benchmarksProblems_eq_nil_iff {seen : List String} {bs : List Benchmark} :
    s.benchmarksProblems seen bs = [] ↔
      (∀ b ∈ bs, b.name ∉ seen) ∧ (bs.map (·.name)).Nodup ∧ ∀ b ∈ bs, s.Admits b := by
  induction bs generalizing seen with
  | nil => simp [benchmarksProblems]
  | cons b bs ih =>
    have hnew : (∀ c ∈ bs, c.name ∉ b.name :: seen) ↔ b.name ∉ bs.map (·.name) ∧ ∀ c ∈ bs, c.name ∉ seen := by
      simp only [List.mem_cons, not_or, forall_and, List.mem_map, not_exists, not_and]
    rw [benchmarksProblems, List.append_eq_nil_iff, benchmarkProblems_eq_nil_iff, ih, hnew, List.forall_mem_cons,
      List.forall_mem_cons, List.map_cons, List.nodup_cons]
    tauto

/-- A specification has no problems exactly if it has what it should have. -/
theorem problems_eq_nil_iff : s.problems = [] ↔ s.Valid := by
  have htools : (s.tools.flatMap fun e => s.toolProblems e.1 e.2) = [] ↔ ∀ e ∈ s.tools,
      e.2.output ∈ s.schemas.keys ∧ ∀ g ∈ e.2.generator, g ∈ s.generators.keys := by
    rw [List.flatMap_eq_nil_iff]
    exact forall₂_congr fun e _ => toolProblems_eq_nil_iff
  have hoptimizer : s.optimizer.elim [] optimizerProblems = [] ↔ ∀ o ∈ s.optimizer,
      (∀ x ∈ o.minPassRate, Decimal.Between 0 100 x) ∧ o.iterations ≠ some 0 := by
    cases s.optimizer with
    | none => simp
    | some o => simp [optimizerProblems_eq_nil_iff, within_iff Decimal.value?_zero Decimal.value?_hundred]
  rw [problems_eq]
  simp only [List.append_eq_nil_iff, demand_eq_nil_iff, Bool.not_eq_true', ← Text.filled_iff, htools, hoptimizer,
    benchmarksProblems_eq_nil_iff]
  constructor
  · rintro ⟨⟨⟨⟨⟨name, model⟩, prompt⟩, tools⟩, -, distinct, admits⟩, optimizer⟩
    exact ⟨name, model, prompt, fun e he => (tools e he).1, fun e he => (tools e he).2, distinct, admits,
      fun o ho => (optimizer o ho).1, fun o ho => (optimizer o ho).2⟩
  · rintro ⟨name, model, prompt, outputs, generators, distinct, admits, minPassRate, iterations⟩
    exact ⟨⟨⟨⟨⟨name, model⟩, prompt⟩, fun e he => ⟨outputs e he, generators e he⟩⟩, fun _ _ => List.not_mem_nil,
      distinct, admits⟩, fun o ho => ⟨minPassRate o ho, iterations o ho⟩⟩

/-! ## How often a problem is listed -/

section Count

variable {p q : Problem} {seen : List String} {b : Benchmark} {bs : List Benchmark}

theorem count_demand {ok : Bool} : (demand ok q).count p = if ok = false ∧ p = q then 1 else 0 := by
  cases ok with
  | true => simp [demand]
  | false => by_cases h : p = q <;> simp [demand, h, Ne.symm]

/-- Of the problems of a case, that its name is taken. -/
theorem count_duplicateBenchmark_case (name : String) : (s.benchmarkProblems seen b).count (.duplicateBenchmark name) =
    if b.name = name ∧ name ∈ seen then 1 else 0 := by
  have htools : (b.tools.flatMap fun t => demand (s.tools.has t) (.unknownTool b.name t)).count
      (.duplicateBenchmark name) = 0 := List.count_eq_zero.2 (by simp [mem_demand_iff])
  unfold benchmarkProblems
  rw [List.count_append, List.count_append, List.count_append, List.count_append, htools]
  by_cases hname : b.name = name
  · subst hname
    cases b.judge.minScore <;> simp [count_demand]
  · cases b.judge.minScore <;> simp [count_demand, hname, Ne.symm hname]

/-- A name is listed for each case after the first, and for the first too if it has been seen. -/
theorem count_duplicateBenchmark_cases (name : String) :
    (s.benchmarksProblems seen bs).count (.duplicateBenchmark name) =
      if name ∈ seen then bs.countP (·.name = name) else bs.countP (·.name = name) - 1 := by
  induction bs generalizing seen with
  | nil => simp [benchmarksProblems]
  | cons b bs ih =>
    rw [benchmarksProblems, List.count_append, count_duplicateBenchmark_case, ih, List.countP_cons]
    by_cases hname : b.name = name
    · subst hname
      by_cases hseen : b.name ∈ seen <;> simp [hseen, Nat.add_comm]
    · simp [hname, Ne.symm hname]

/-- Every mention of a tool that is not declared is listed. -/
theorem count_mentions (name case tool : String) (mentions : List String) :
    (mentions.flatMap fun t => demand (s.tools.has t) (.unknownTool name t)).count (.unknownTool case tool) =
      if name = case ∧ tool ∉ s.tools.keys then mentions.count tool else 0 := by
  induction mentions with
  | nil => simp
  | cons t mentions ih =>
    rw [List.flatMap_cons, List.count_append, ih, count_demand, List.count_cons]
    simp only [Table.has_eq_false_iff, Problem.unknownTool.injEq, beq_iff_eq]
    by_cases hname : name = case <;> by_cases hdeclared : tool ∈ s.tools.keys <;> by_cases ht : t = tool <;>
      simp_all [Nat.add_comm, eq_comm]

/-- Of the problems of a case, that a tool it mentions is not declared. -/
theorem count_unknownTool_case (case tool : String) : (s.benchmarkProblems seen b).count (.unknownTool case tool) =
    if b.name = case ∧ tool ∉ s.tools.keys then b.tools.count tool else 0 := by
  unfold benchmarkProblems
  rw [List.count_append, List.count_append, List.count_append, List.count_append, count_mentions]
  cases b.judge.minScore <;> simp [count_demand]

theorem count_unknownTool_cases (case tool : String) : (s.benchmarksProblems seen bs).count (.unknownTool case tool) =
    if tool ∈ s.tools.keys then 0 else ((bs.filter (·.name = case)).flatMap (·.tools)).count tool := by
  induction bs generalizing seen with
  | nil => simp [benchmarksProblems]
  | cons b bs ih =>
    rw [benchmarksProblems, List.count_append, count_unknownTool_case, ih]
    by_cases htool : tool ∈ s.tools.keys <;> by_cases hname : b.name = case <;> simp [htool, hname]

theorem eq_outOfRange_of_mem {o : OptimizerBlock} (h : p ∈ optimizerProblems o) : ∃ what, p = .outOfRange what := by
  rcases List.mem_append.1 h with h | h
  · cases hrate : o.minPassRate with
    | none => simp [hrate] at h
    | some x =>
      rw [hrate] at h
      exact ⟨_, (mem_demand_iff.1 h).2⟩
  · exact ⟨_, (mem_demand_iff.1 h).2⟩

/-- What only a case can have is listed among the problems of the cases. -/
theorem count_problems_of_case (h : p.OfCase) : s.problems.count p = (s.benchmarksProblems [] s.benchmarks).count p := by
  have hrequired {ok : Bool} {field : String} : (demand ok (.required field)).count p = 0 := by
    rw [count_demand, if_neg]
    rintro ⟨-, rfl⟩
    exact h
  have htools : (s.tools.flatMap fun e => s.toolProblems e.1 e.2).count p = 0 := by
    refine List.count_eq_zero.2 fun hp => ?_
    obtain ⟨e, -, hp⟩ := List.mem_flatMap.1 hp
    rcases mem_toolProblems_iff.1 hp with ⟨-, rfl⟩ | ⟨g, -, -, rfl⟩ <;> exact h
  have hoptimizer : (s.optimizer.elim [] optimizerProblems).count p = 0 := by
    refine List.count_eq_zero.2 fun hp => ?_
    cases ho : s.optimizer with
    | none => simp [ho] at hp
    | some o =>
      rw [ho] at hp
      obtain ⟨what, rfl⟩ := eq_outOfRange_of_mem hp
      exact h
  rw [problems_eq, List.count_append, List.count_append, List.count_append, List.count_append, List.count_append, hrequired,
    hrequired, hrequired, htools, hoptimizer]
  omega

end Count

/-! ## Another prompt -/

theorem exists_of_mem_benchmarksProblems {p : Problem} {seen : List String} {bs : List Benchmark}
    (h : p ∈ s.benchmarksProblems seen bs) : ∃ seen b, p ∈ s.benchmarkProblems seen b := by
  induction bs generalizing seen with
  | nil => cases h
  | cons b bs ih =>
    rcases List.mem_append.1 h with h | h
    · exact ⟨seen, b, h⟩
    · exact ih h

/-- A blank prompt is listed once, at a place of its own, and all else is listed whatever the prompt is. -/
theorem problems_of_prompt (s : Specification) : ∃ before after, .required "agent.systemPrompt" ∉ before ++ after ∧
    ∀ prompt, (s.withSystemPrompt prompt).problems =
      before ++ (if Text.isBlankText prompt then [.required "agent.systemPrompt"] else []) ++ after := by
  refine ⟨demand (!Text.isBlankText s.metadata.name) (.required "metadata.name") ++
      demand (!Text.isBlankText s.agent.model) (.required "agent.model"),
    s.tools.flatMap (fun e => s.toolProblems e.1 e.2) ++ s.benchmarksProblems [] s.benchmarks ++
      s.optimizer.elim [] optimizerProblems, ?_, fun prompt => ?_⟩
  · intro h
    rcases List.mem_append.1 h with h | h
    · simp [mem_demand_iff] at h
    · rcases List.mem_append.1 h with h | h
      · rcases List.mem_append.1 h with h | h
        · obtain ⟨e, -, h⟩ := List.mem_flatMap.1 h
          simpa using mem_toolProblems_iff.1 h
        · obtain ⟨seen, b, h⟩ := exists_of_mem_benchmarksProblems h
          simpa using mem_benchmarkProblems_iff.1 h
      · cases ho : s.optimizer with
        | none => simp [ho] at h
        | some o =>
          rw [ho] at h
          obtain ⟨what, hwhat⟩ := eq_outOfRange_of_mem h
          cases hwhat
  · have hprompt : demand (!Text.isBlankText prompt) (.required "agent.systemPrompt") =
        if Text.isBlankText prompt then [.required "agent.systemPrompt"] else [] := by
      cases h : Text.isBlankText prompt <;> rfl
    rw [← hprompt, problems_eq, benchmarksProblems_withSystemPrompt]
    simp only [List.append_assoc]
    rfl

/-- Looking for problems is exact.  There are none exactly if the specification has what it should have.  That a name is
taken is listed for each case of that name but the first, and that a tool is not declared once for each mention in a case
of that name.  Of the prompt nothing depends but one problem, which is listed exactly if the prompt is blank. -/
theorem problems_exact (s : Specification) :
    (s.problems = [] ↔ s.Valid) ∧ (s.validate = .ok () ↔ s.Valid) ∧
    (∀ name, s.problems.count (.duplicateBenchmark name) = s.benchmarks.countP (·.name = name) - 1) ∧
    (∀ case tool, s.problems.count (.unknownTool case tool) =
      if tool ∈ s.tools.keys then 0 else ((s.benchmarks.filter (·.name = case)).flatMap (·.tools)).count tool) ∧
    ∃ before after, .required "agent.systemPrompt" ∉ before ++ after ∧
      ∀ prompt, (s.withSystemPrompt prompt).problems =
        before ++ (if Text.isBlankText prompt then [.required "agent.systemPrompt"] else []) ++ after := by
  refine ⟨problems_eq_nil_iff, validate_eq_ok_iff.trans problems_eq_nil_iff, fun name => ?_, fun case tool => ?_,
    problems_of_prompt s⟩
  · have hcase : (Problem.duplicateBenchmark name).OfCase := trivial
    rw [count_problems_of_case hcase, count_duplicateBenchmark_cases, if_neg (by simp)]
  · have hcase : (Problem.unknownTool case tool).OfCase := trivial
    rw [count_problems_of_case hcase, count_unknownTool_cases]

end Specification

end AgentTrial
