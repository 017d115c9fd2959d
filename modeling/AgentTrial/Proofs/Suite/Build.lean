import AgentTrial.Proofs.Program.Reference
import AgentTrial.Proofs.Spec.Distinct
import AgentTrial.Suite.Basic

/-!
# Build — what a suite is after its calls

A call sets one part of a suite, and calls that set different parts can change places.  So a suite is the same for all
orders of its calls that keep those of each part in order.

* `Suite.apply_comm`, `Suite.ofCalls_eq_of_filter_eq`: calls of different groups commute, one by one and in a list.
* `Suite.schemas_specification`: the default verdict schema comes last, if it is used and not declared.
* `Suite.build_of_calls`: all of it for what is built.
-/

namespace AgentTrial

/-! ## Steps that can change places -/

section Trace

variable {σ α γ : Type} {step : σ → α → σ} {group : α → γ}

/-- A step commutes with a list of steps of other groups. -/
theorem foldl_step_comm (comm : ∀ s a b, group a ≠ group b → step (step s a) b = step (step s b) a) {a : α}
    {bs : List α} (h : ∀ b ∈ bs, group b ≠ group a) (s : σ) : step (bs.foldl step s) a = bs.foldl step (step s a) := by
  induction bs generalizing s with
  | nil => rfl
  | cons b bs ih =>
    obtain ⟨hb, hbs⟩ := List.forall_mem_cons.1 h
    rw [List.foldl_cons, ih hbs, comm s b a hb, List.foldl_cons]

/-- Lists of steps lead to the same state if they have the same steps of each group in the same order. -/
theorem foldl_eq_of_filter_eq [DecidableEq γ]
    (comm : ∀ s a b, group a ≠ group b → step (step s a) b = step (step s b) a) {as bs : List α}
    (h : ∀ g, as.filter (group · = g) = bs.filter (group · = g)) (s : σ) : as.foldl step s = bs.foldl step s := by
  induction as generalizing bs s with
  | nil =>
    have hempty : bs = [] := by
      refine List.eq_nil_iff_forall_not_mem.2 fun b hb => ?_
      have hmem : b ∈ bs.filter (group · = group b) := List.mem_filter.2 ⟨hb, decide_eq_true rfl⟩
      rw [← h] at hmem
      cases hmem
    rw [hempty]
  | cons a as ih =>
    -- the first step of its group in the other list is the same one, and only other groups stand before it
    have ha := h (group a)
    rw [List.filter_cons_of_pos (by simp), eq_comm, List.filter_eq_cons_iff] at ha
    obtain ⟨before, after, rfl, hbefore, -, -⟩ := ha
    have hother : ∀ b ∈ before, group b ≠ group a := by simpa using hbefore
    have hrest : ∀ g, as.filter (group · = g) = (before ++ after).filter (group · = g) := by
      intro g
      have hg := h g
      rw [List.filter_append] at hg ⊢
      by_cases hga : group a = g
      · have hnone : before.filter (group · = g) = [] := by
          simpa [← hga] using hother
        simpa [hga, hnone] using hg
      · simpa [hga] using hg
    rw [List.foldl_cons, ih hrest, List.foldl_append, List.foldl_append, List.foldl_cons, foldl_step_comm comm hother]

/-- What steps do to a part of the state is done by those that pick something for it. -/
theorem foldl_of_pick {τ β : Type} (part : σ → τ) (pick : α → Option β) (put : τ → β → τ)
    (h : ∀ s a, part (step s a) = (pick a).elim (part s) (put (part s))) (as : List α) (s : σ) :
    part (as.foldl step s) = (as.filterMap pick).foldl put (part s) := by
  induction as generalizing s with
  | nil => rfl
  | cons a as ih =>
    rw [List.foldl_cons, ih, h, List.filterMap_cons]
    cases pick a <;> rfl

end Trace

/-! ## The table of a list of pairs -/

namespace Table

variable {α : Type}

/-- A table of the pairs: each name at the place where it is first, with the value that it has last. -/
structure Gathers (t : Table α) (pairs : List (String × α)) : Prop where
  keys : t.keys = (pairs.map Prod.fst).eraseDups
  values : ∀ k, get? k t = ((pairs.filter (·.1 = k)).getLast?).map Prod.snd

theorem Gathers.of_eq {t : Table α} {pairs : List (String × α)} (h : t = ofPairs pairs) : t.Gathers pairs :=
  ⟨h ▸ keys_ofPairs pairs, h ▸ get?_ofPairs pairs⟩

end Table

/-! ## Calls by what they set -/

/-- The parts of a suite that calls set.  Settings of the agent belong to the agent. -/
inductive SuiteCall.Group
  | version
  | description
  | agent
  | schema
  | generator
  | tool
  | scenario
  | optimizer
  deriving DecidableEq

namespace SuiteCall

/-- The part that a call sets. -/
def group : SuiteCall → Group
  | version _ => .version
  | description _ => .description
  | agent .. | toolChoice _ | maxSteps _ => .agent
  | schema .. => .schema
  | generator .. => .generator
  | tool .. => .tool
  | scenario _ => .scenario
  | optimizer _ => .optimizer

/-- The schema that a call declares. -/
def schema? : SuiteCall → Option (String × PropertyType)
  | schema name p => some (name, p)
  | _ => none

/-- The generator that a call declares. -/
def generator? : SuiteCall → Option (String × Generator)
  | generator name g => some (name, g)
  | _ => none

/-- The tool that a call declares. -/
def tool? : SuiteCall → Option (String × Tool)
  | tool name t => some (name, t)
  | _ => none

/-- The scenario that a call adds. -/
def scenario? : SuiteCall → Option Benchmark
  | scenario b => some b
  | _ => none

end SuiteCall

namespace Suite

variable {name : String} {calls calls' : List SuiteCall}

/-- Calls that set different parts commute. -/
theorem apply_comm (s : Suite) (c d : SuiteCall) (h : c.group ≠ d.group) :
    (s.apply c).apply d = (s.apply d).apply c := by
  cases c <;> cases d <;> first | rfl | exact absurd rfl h

/-- A suite is the same for all orders of its calls that keep those of each part in order. -/
theorem ofCalls_eq_of_filter_eq (h : ∀ g, calls.filter (·.group = g) = calls'.filter (·.group = g)) :
    ofCalls name calls = ofCalls name calls' :=
  foldl_eq_of_filter_eq apply_comm h (define name)

theorem schemas_ofCalls : (ofCalls name calls).schemas = Table.ofPairs (calls.filterMap (·.schema?)) :=
  foldl_of_pick schemas SuiteCall.schema? (fun t e => Table.insert e.1 e.2 t) (fun _ c => by cases c <;> rfl) calls
    (define name)

theorem generators_ofCalls : (ofCalls name calls).generators = Table.ofPairs (calls.filterMap (·.generator?)) :=
  foldl_of_pick generators SuiteCall.generator? (fun t e => Table.insert e.1 e.2 t) (fun _ c => by cases c <;> rfl)
    calls (define name)

theorem tools_ofCalls : (ofCalls name calls).tools = Table.ofPairs (calls.filterMap (·.tool?)) :=
  foldl_of_pick tools SuiteCall.tool? (fun t e => Table.insert e.1 e.2 t) (fun _ c => by cases c <;> rfl) calls
    (define name)

theorem scenarios_ofCalls : (ofCalls name calls).scenarios = calls.filterMap (·.scenario?) := by
  have hfold : (ofCalls name calls).scenarios = (calls.filterMap (·.scenario?)).foldl (fun bs b => bs ++ [b]) [] :=
    foldl_of_pick scenarios SuiteCall.scenario? (fun bs b => bs ++ [b]) (fun _ c => by cases c <;> rfl) calls
      (define name)
  rw [hfold]
  simp [← List.flatMap_def]

/-- The default verdict schema comes after the declared ones, if a scenario uses it and it is not declared. -/
theorem schemas_specification (s : Suite) : s.specification.schemas = s.schemas ++
    if (∃ b ∈ s.scenarios, b.judge.schema = Scenario.defaultSchema) ∧ Scenario.defaultSchema ∉ s.schemas.keys then
      [(Scenario.defaultSchema, verdictSchema)]
    else [] := by
  have hused : (s.scenarios.any (·.judge.schema = Scenario.defaultSchema) && !s.schemas.has Scenario.defaultSchema) =
      true ↔ (∃ b ∈ s.scenarios, b.judge.schema = Scenario.defaultSchema) ∧
        Scenario.defaultSchema ∉ s.schemas.keys := by
    simp [Table.has_eq_false_iff]
  rw [specification, allSchemas, if_congr hused rfl rfl]
  split_ifs with h
  · exact Table.insert_of_notMem h.2 _
  · exact (List.append_nil _).symm

theorem build_eq_ok_iff {suite : Suite} {s : Specification} :
    suite.build = .ok s ↔ suite.specification.problems = [] ∧ s = suite.specification := by
  rw [← Specification.validate_eq_ok_iff, build]
  cases suite.specification.validate with
  | error e => simp [bind, Except.bind]
  | ok u => simp [bind, Except.bind, pure, Except.pure, eq_comm]

/-- A specification that is what calls ask for, can be compiled, and has no problem. -/
structure Built (calls : List SuiteCall) (s : Specification) : Prop where
  problems : s.problems = []
  compiles : ∃ program, Program.compile s = .ok program
  benchmarks : s.benchmarks = calls.filterMap (·.scenario?)
  generators : s.generators.Gathers (calls.filterMap (·.generator?))
  tools : s.tools.Gathers (calls.filterMap (·.tool?))
  schemas : ∃ declared : Table PropertyType, declared.Gathers (calls.filterMap (·.schema?)) ∧ s.schemas = declared ++
    if (∃ b ∈ s.benchmarks, b.judge.schema = Scenario.defaultSchema) ∧ Scenario.defaultSchema ∉ declared.keys then
      [(Scenario.defaultSchema, verdictSchema)]
    else []

theorem built_of_build {s : Specification} (h : (ofCalls name calls).build = .ok s) : Built calls s := by
  obtain ⟨valid, rfl⟩ := build_eq_ok_iff.1 h
  exact ⟨valid, Specification.compiles_of_valid valid, scenarios_ofCalls, .of_eq generators_ofCalls,
    .of_eq tools_ofCalls, _, .of_eq schemas_ofCalls, schemas_specification _⟩

/-- Building is the same for all orders of the calls that keep those of each part in order, with the same specification
or the same problem.  What is built is what the calls ask for, has no problem, and compiles. -/
theorem build_of_calls (name : String) (calls : List SuiteCall) :
    (∀ calls' : List SuiteCall, (∀ g, calls'.filter (·.group = g) = calls.filter (·.group = g)) →
      (ofCalls name calls').build = (ofCalls name calls).build) ∧
    ∀ s, (ofCalls name calls).build = .ok s → Built calls s :=
  ⟨fun _ h => congrArg build (ofCalls_eq_of_filter_eq h), fun _ h => built_of_build h⟩

/-- Two declarations of one schema stay in order, and all else is called the other way round. -/
theorem build_of_calls_weather : let b := Scenario.ofCalls "Paris" [.user "Weather?", .judge "Did it answer?"]
    let calls := [.agent "gpt-4o" "You report the weather.", .toolChoice .required, .schema "Forecast" .string,
      .schema "Forecast" .number, .scenario b]
    (ofCalls "weather" [.scenario b, .schema "Forecast" .string, .schema "Forecast" .number,
        .agent "gpt-4o" "You report the weather.", .toolChoice .required]).build = (ofCalls "weather" calls).build ∧
      ∃ s, (ofCalls "weather" calls).build = .ok s ∧ s.schemas.keys = ["Forecast", "Verdict"] ∧ Built calls s := by
  intro b calls
  have hvalid : (ofCalls "weather" calls).specification.problems = [] := by decide
  have hbuild := build_eq_ok_iff.2 ⟨hvalid, rfl⟩
  refine ⟨(build_of_calls "weather" calls).1 _ fun g => ?_, _, hbuild, rfl, (build_of_calls "weather" calls).2 _ hbuild⟩
  cases g <;> rfl

end Suite

end AgentTrial
