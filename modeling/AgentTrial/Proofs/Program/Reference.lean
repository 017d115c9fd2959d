import AgentTrial.Program.Compile
import AgentTrial.Proofs.Spec.Problem
import AgentTrial.Proofs.Traversal

/-!
# Reference — references of a specification, checked twice

`Specification.problems` goes through all tools and then through the cases and collects what is wrong.
`Program.compile` goes through the cases, looks at the tools they permit and stops at the first thing that is wrong.

* `Defect`: what of a case can keep a specification from compiling, with the error that says so.
* `defect_of_compile_error`, `compile_fails_of_defect`: compiling fails exactly if a case has a defect.
* `mem_problems_of_compile_error`: every error of the compiler is among the problems.
* `compile_withSystemPrompt_error_iff`: the prompt has no part in it.
-/

namespace AgentTrial

/-- The problem that an error of the compiler is about. -/
def CompileError.problem : CompileError → Problem
  | unresolvedTool benchmark tool => .unknownTool benchmark tool
  | unresolvedSchema owner schema => .unknownSchema owner schema
  | unresolvedGenerator tool generator => .unknownGenerator tool generator
  | missingUserMessage benchmark => .missingUserMessage benchmark

namespace Program

/-- A tool that a case permits and that cannot be declared. -/
inductive ToolDefect (s : Specification) (case name : String) : CompileError → Prop
  | undeclared (h : name ∉ s.tools.keys) : ToolDefect s case name (.unresolvedTool case name)
  | output {tool : Tool} (declared : Table.get? name s.tools = some tool) (h : tool.output ∉ s.schemas.keys) :
      ToolDefect s case name (.unresolvedSchema (toolOwner name) tool.output)
  | generator {tool : Tool} {g : String} (declared : Table.get? name s.tools = some tool)
      (named : tool.generator = some g) (h : g ∉ s.generators.keys) :
      ToolDefect s case name (.unresolvedGenerator name g)

/-- What keeps a case from being compiled. -/
inductive Defect (s : Specification) (b : Benchmark) : CompileError → Prop
  | message (h : ∀ m ∈ b.messages, m.role ≠ .user) : Defect s b (.missingUserMessage b.name)
  | judge (h : b.judge.schema ∉ s.schemas.keys) :
      Defect s b (.unresolvedSchema (benchmarkOwner b.name) b.judge.schema)
  | tool {name : String} {e : CompileError} (permitted : name ∈ b.tools) (h : ToolDefect s b.name name e) :
      Defect s b e

section Compile

variable {s : Specification} {b : Benchmark} {case name : String} {tool : Tool} {e : CompileError}

theorem toolSource_error_iff : toolSource s case name tool = .error e ↔
    ∃ g, tool.generator = some g ∧ g ∉ s.generators.keys ∧ e = .unresolvedGenerator name g := by
  unfold toolSource
  cases hg : tool.generator with
  | none => simp
  | some g =>
    dsimp only
    cases hget : Table.get? g s.generators with
    | none =>
      have hkeys := Table.get?_eq_none_iff.1 hget
      simp [hkeys, eq_comm]
    | some generator =>
      have hkeys : g ∈ s.generators.keys := by
        by_contra hn
        rw [Table.get?_eq_none_iff.2 hn] at hget
        cases hget
      simp [hkeys]

theorem toolBlock_error (h : toolBlock s case name = .error e) : ToolDefect s case name e := by
  unfold toolBlock at h
  cases ht : Table.get? name s.tools with
  | none =>
    rw [ht] at h
    obtain rfl := Except.error.inj h
    exact .undeclared (Table.get?_eq_none_iff.1 ht)
  | some tool =>
    rw [ht] at h
    dsimp only at h
    split_ifs at h with ho
    · cases hs : toolSource s case name tool with
      | error e' =>
        rw [hs] at h
        obtain rfl := Except.error.inj h
        obtain ⟨g, hg, hkeys, rfl⟩ := toolSource_error_iff.1 hs
        exact .generator ht hg hkeys
      | ok source =>
        rw [hs] at h
        cases h
    · obtain rfl := Except.error.inj h
      exact .output ht (Table.has_eq_false_iff.1 (by simpa using ho))

theorem ToolDefect.fails (h : ToolDefect s case name e) : ∃ e', toolBlock s case name = .error e' := by
  unfold toolBlock
  cases h with
  | undeclared h => exact ⟨_, by rw [Table.get?_eq_none_iff.2 h]⟩
  | output declared h =>
    rw [declared]
    dsimp only
    rw [Table.has_eq_false_iff.2 h]
    exact ⟨_, rfl⟩
  | generator declared named h =>
    rw [declared]
    dsimp only
    split_ifs with ho
    · exact ⟨_, by rw [toolSource_error_iff.2 ⟨_, named, h, rfl⟩]; rfl⟩
    · exact ⟨_, rfl⟩

theorem caseBlock_error (h : caseBlock s b = .error e) : Defect s b e := by
  unfold caseBlock at h
  cases hm : b.firstUserMessage? with
  | none =>
    rw [hm] at h
    obtain rfl := Except.error.inj h
    exact .message (Benchmark.firstUserMessage?_eq_none_iff.1 hm)
  | some input =>
    rw [hm] at h
    dsimp only at h
    split_ifs at h with hj
    · cases hts : b.tools.mapM (toolBlock s b.name) with
      | error e' =>
        rw [hts] at h
        obtain rfl := Except.error.inj h
        obtain ⟨before, name, after, hsplit, -, hname⟩ := split_of_mapM hts
        exact .tool (by simp [hsplit]) (toolBlock_error hname)
      | ok tools =>
        rw [hts] at h
        cases h
    · obtain rfl := Except.error.inj h
      exact .judge (Table.has_eq_false_iff.1 (by simpa using hj))

theorem Defect.fails (h : Defect s b e) : ∃ e', caseBlock s b = .error e' := by
  unfold caseBlock
  cases hm : b.firstUserMessage? with
  | none => exact ⟨_, rfl⟩
  | some input =>
    dsimp only
    split_ifs with hj
    · cases h with
      | message h =>
        rw [Benchmark.firstUserMessage?_eq_none_iff.2 h] at hm
        cases hm
      | judge h =>
        rw [Table.has_eq_false_iff.2 h] at hj
        cases hj
      | tool permitted h =>
        obtain ⟨e', he'⟩ := mapM_error_iff.2 ⟨_, permitted, h.fails⟩
        exact ⟨e', by rw [he']; rfl⟩
    · exact ⟨_, rfl⟩

theorem compile_error_iff_blocks : compile s = .error e ↔ blocks s = .error e := by
  unfold compile
  cases blocks s with
  | error e' => exact ⟨fun h => congrArg _ (Except.error.inj h), fun h => congrArg _ (Except.error.inj h)⟩
  | ok bs => exact ⟨nofun, nofun⟩

/-- The error of the compiler is that of a case. -/
theorem defect_of_compile_error (h : compile s = .error e) : ∃ b ∈ s.benchmarks, Defect s b e := by
  obtain ⟨before, b, after, hsplit, -, hb⟩ := split_of_mapM (compile_error_iff_blocks.1 h)
  exact ⟨b, by simp [hsplit], caseBlock_error hb⟩

theorem compile_fails_of_defect (hb : b ∈ s.benchmarks) (h : Defect s b e) : ∃ e', compile s = .error e' := by
  obtain ⟨e', he'⟩ := mapM_error_iff.2 ⟨b, hb, h.fails⟩
  exact ⟨e', compile_error_iff_blocks.2 he'⟩

/-- Why a specification does not compile does not depend on its prompt. -/
theorem compile_withSystemPrompt_error_iff {p : String} :
    compile (s.withSystemPrompt p) = .error e ↔ compile s = .error e := by
  rw [compile_error_iff_blocks, compile_error_iff_blocks]
  exact Iff.rfl

theorem compiles_iff : (∃ program, compile s = .ok program) ↔ ∀ e, compile s ≠ .error e := by
  cases compile s with
  | error e => exact ⟨nofun, fun h => absurd rfl (h e)⟩
  | ok program => exact ⟨fun _ => nofun, fun _ => ⟨program, rfl⟩⟩

theorem compiles_withSystemPrompt_iff {p : String} :
    (∃ program, compile (s.withSystemPrompt p) = .ok program) ↔ ∃ program, compile s = .ok program := by
  rw [compiles_iff, compiles_iff]
  exact forall_congr' fun e => not_congr compile_withSystemPrompt_error_iff

end Compile

end Program

namespace Specification

open Program

variable {s : Specification} {b : Benchmark} {name : String} {e : CompileError}

theorem mem_problems_of_toolDefect (hb : b ∈ s.benchmarks) (permitted : name ∈ b.tools)
    (h : ToolDefect s b.name name e) : e.problem ∈ s.problems := by
  cases h with
  | undeclared h =>
    exact mem_problems_of_benchmark hb fun seen =>
      mem_benchmarkProblems_iff.2 (.inr (.inr (.inl ⟨name, permitted, h, rfl⟩)))
  | output declared h =>
    exact mem_problems_of_tool (Table.mem_of_get? declared) (mem_toolProblems_iff.2 (.inl ⟨h, rfl⟩))
  | generator declared named h =>
    exact mem_problems_of_tool (Table.mem_of_get? declared) (mem_toolProblems_iff.2 (.inr ⟨_, named, h, rfl⟩))

/-- A defect of a case is among the problems. -/
theorem mem_problems_of_defect (hb : b ∈ s.benchmarks) (h : Defect s b e) : e.problem ∈ s.problems := by
  cases h with
  | message h =>
    exact mem_problems_of_benchmark hb fun seen => mem_benchmarkProblems_iff.2 (.inr (.inl ⟨h, rfl⟩))
  | judge h =>
    exact mem_problems_of_benchmark hb fun seen =>
      mem_benchmarkProblems_iff.2 (.inr (.inr (.inr (.inl ⟨h, rfl⟩))))
  | tool permitted h => exact mem_problems_of_toolDefect hb permitted h

theorem mem_problems_of_compile_error (h : Program.compile s = .error e) : e.problem ∈ s.problems := by
  obtain ⟨b, hb, hd⟩ := defect_of_compile_error h
  exact mem_problems_of_defect hb hd

theorem compiles_of_valid (valid : s.problems = []) : ∃ program, Program.compile s = .ok program := by
  rw [compiles_iff]
  intro e h
  have hp := mem_problems_of_compile_error h
  rw [valid] at hp
  cases hp

end Specification

end AgentTrial
