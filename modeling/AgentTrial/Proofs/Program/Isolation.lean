import AgentTrial.Proofs.Program.Unit

/-!
# Isolation — what the program of a case depends on

A case sees what all cases share, and the tools that it permits with their generators.  Everything else in a
specification may be another one: the other cases, their number and order, other tools and generators.

* `Agree`: two specifications that are the same as far as a case sees them.
* `Agree.caseBlock`: the case has the same block in both, or fails for the same reason.
* `unit_isolated`: its unit has the same name and the same source in both, wherever it stands.
-/

namespace AgentTrial.Program

/-- Two specifications are the same as far as a case sees them. -/
structure Agree (s t : Specification) (b : Benchmark) : Prop where
  name : s.metadata.name = t.metadata.name
  version : s.metadata.version = t.metadata.version
  agent : s.agent = t.agent
  schemas : s.schemas = t.schemas
  tools : ∀ name ∈ b.tools, Table.get? name s.tools = Table.get? name t.tools
  generators : ∀ name ∈ b.tools, ∀ tool, Table.get? name s.tools = some tool → ∀ g, tool.generator = some g →
    Table.get? g s.generators = Table.get? g t.generators

section Agree

variable {s t : Specification} {b : Benchmark}

theorem toolSource_congr {tool : Tool}
    (generators : ∀ g, tool.generator = some g → Table.get? g s.generators = Table.get? g t.generators)
    (case name : String) : toolSource s case name tool = toolSource t case name tool := by
  unfold toolSource
  cases hg : tool.generator with
  | none => rfl
  | some g =>
    dsimp only
    rw [generators g hg]

/-- A tool that a case permits comes out the same. -/
theorem Agree.toolBlock (agree : Agree s t b) {name : String} (permitted : name ∈ b.tools) (case : String) :
    toolBlock s case name = toolBlock t case name := by
  unfold Program.toolBlock
  rw [← agree.tools name permitted, agree.schemas]
  cases htool : Table.get? name s.tools with
  | none => rfl
  | some tool =>
    dsimp only
    rw [toolSource_congr (agree.generators name permitted tool htool)]

theorem Agree.caseBlock (agree : Agree s t b) : caseBlock s b = caseBlock t b := by
  unfold Program.caseBlock
  rw [agree.schemas, agree.agent, mapM_congr fun name permitted => agree.toolBlock permitted b.name]

end Agree

/-- The unit of a case depends on what the case sees of its specification, and on nothing else: in two specifications
that are the same so far, at whatever places the case stands in them, it has the same name and the same source. -/
theorem unit_isolated {s t : Specification} {p q : SourceProgram} {b : Benchmark} {i j : Nat}
    (hp : compile s = .ok p) (hq : compile t = .ok q) (hs : s.benchmarks[i]? = some b)
    (ht : t.benchmarks[j]? = some b) (agree : Agree s t b) :
    ∃ u v, p.units[i]? = some u ∧ q.units[j]? = some v ∧ u.name = b.name ∧ v.name = b.name ∧ u.source = v.source := by
  obtain ⟨block, hblock⟩ := caseBlock_of_compile hp (List.mem_of_getElem? hs)
  have hblock' : caseBlock t b = .ok block := agree.caseBlock ▸ hblock
  refine ⟨_, _, (unit_iff hp).2 ⟨b, block, hs, hblock, rfl⟩, (unit_iff hq).2 ⟨b, block, ht, hblock', rfl⟩, rfl, rfl, ?_⟩
  rw [source_unitOf, source_unitOf, lines_eq agree.name agree.version agree.agent agree.schemas]

/-- A case that permits one tool. -/
def searching : Benchmark := ⟨"search", [⟨.user, "hi"⟩], ["search"], ⟨"Is it?", "verdict", some 0, none⟩⟩

/-- A specification with this case only. -/
def alone : Specification where
  metadata := ⟨"weather", "0.1.0", none⟩
  schemas := [("verdict", .boolean)]
  generators := [("web", ⟨"Make one up.", none⟩)]
  agent := ⟨"m", "p", .auto, none⟩
  tools := [("search", ⟨"Searches.", [], "verdict", some "web"⟩)]
  benchmarks := [searching]

/-- The same with another case before it, which permits another tool. -/
def crowded : Specification :=
  { alone with
    metadata := ⟨"weather", "0.1.0", some "Two cases"⟩
    generators := [("shell", ⟨"Answer as a shell.", some "n"⟩), ("web", ⟨"Make one up.", none⟩)]
    tools := [("wipe", ⟨"Deletes everything.", [("path", .string)], "verdict", some "shell"⟩),
      ("search", ⟨"Searches.", [], "verdict", some "web"⟩)]
    benchmarks := [⟨"wipe", [⟨.user, "go"⟩], ["wipe", "search"], ⟨"Is it gone?", "verdict", none, none⟩⟩, searching]
    optimizer := some { iterations := some 3 } }

theorem agree_crowded : Agree crowded alone searching := by
  have found : Table.get? "search" crowded.tools = some ⟨"Searches.", [], "verdict", some "web"⟩ := rfl
  refine ⟨rfl, rfl, rfl, rfl, fun name hname => ?_, fun name hname tool htool g hg => ?_⟩
  · rw [List.mem_singleton.1 hname]
    rfl
  · rw [List.mem_singleton.1 hname, found] at htool
    obtain rfl := Option.some.inj htool
    obtain rfl : "web" = g := Option.some.inj hg
    rfl

theorem unit_isolated_crowded : Agree crowded alone searching ∧ ∃ p q u v, compile crowded = .ok p ∧
    compile alone = .ok q ∧ p.units[1]? = some u ∧ q.units[0]? = some v ∧ u.source = v.source := by
  obtain ⟨p, hp⟩ : ∃ p, compile crowded = .ok p := ⟨_, rfl⟩
  obtain ⟨q, hq⟩ : ∃ q, compile alone = .ok q := ⟨_, rfl⟩
  obtain ⟨u, v, hu, hv, -, -, hsource⟩ := unit_isolated (i := 1) (j := 0) hp hq rfl rfl agree_crowded
  exact ⟨agree_crowded, p, q, u, v, hp, hq, hu, hv, hsource⟩

end AgentTrial.Program
