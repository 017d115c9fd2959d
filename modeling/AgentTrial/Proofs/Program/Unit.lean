import AgentTrial.Program.Compile
import AgentTrial.Proofs.Traversal

/-!
# Unit — the units of a compiled specification

A specification compiles when all of its cases do, and then it has one unit for each of them, in their order.

* `unit_iff`: which unit stands at a place.
* `caseBlock_of_compile`: every case of a compiled specification has its block.
* `toolBlock_ok`, `caseBlock_ok`: the lines of a declared tool and of a test block.
-/

namespace AgentTrial.Program

variable {s : Specification} {p : SourceProgram}

theorem getElem?_unitsFrom {l : List (Benchmark × List String)} (index k : Nat) :
    (unitsFrom s index l)[k]? = l[k]?.map fun x => unitOf s (index + k) x.1.name x.2 := by
  induction l generalizing index k with
  | nil => rfl
  | cons x l ih =>
    cases k with
    | zero => rfl
    | succ k =>
      rw [unitsFrom, List.getElem?_cons_succ, ih, List.getElem?_cons_succ]
      have hplace : index + 1 + k = index + (k + 1) := by omega
      rw [hplace]

theorem source_unitOf (index : Nat) (name : String) (block : List String) :
    (unitOf s index name block).source = unlines (lines s [block]) := by
  rw [unitOf]

/-- The lines around the blocks depend on the name, the version, the agent and the schemas. -/
theorem lines_eq {t : Specification} (name : s.metadata.name = t.metadata.name)
    (version : s.metadata.version = t.metadata.version) (agent : s.agent = t.agent) (schemas : s.schemas = t.schemas)
    (bs : List (List String)) : lines s bs = lines t bs := by
  unfold lines header preamble suite
  rw [name, version, agent, schemas]

/-- What a specification compiles to. -/
theorem compile_ok (compiled : compile s = .ok p) : ∃ bs, List.Forall₂ (fun b block => caseBlock s b = .ok block)
    s.benchmarks bs ∧ p = ⟨s.metadata.name, unitsFrom s 0 (s.benchmarks.zip bs), unlines (lines s bs)⟩ := by
  obtain ⟨bs, hblocks, hp⟩ := of_bind_ok compiled
  exact ⟨bs, forall₂_of_mapM hblocks, (Except.ok.inj hp).symm⟩

theorem length_unitsFrom (index : Nat) (l : List (Benchmark × List String)) :
    (unitsFrom s index l).length = l.length := by
  induction l generalizing index with
  | nil => rfl
  | cons x l ih => rw [unitsFrom, List.length_cons, ih, List.length_cons]

theorem length_units (compiled : compile s = .ok p) : p.units.length = s.benchmarks.length := by
  obtain ⟨bs, hblocks, rfl⟩ := compile_ok compiled
  rw [length_unitsFrom, List.length_zip, ← hblocks.length_eq, Nat.min_self]

theorem caseBlock_of_compile (compiled : compile s = .ok p) {b : Benchmark} (hb : b ∈ s.benchmarks) :
    ∃ block, caseBlock s b = .ok block := by
  obtain ⟨bs, hblocks, -⟩ := of_bind_ok compiled
  exact ok_of_mem_mapM hblocks hb

/-- The units of a program are those of its cases with their blocks. -/
theorem unit_iff (compiled : compile s = .ok p) {k : Nat} {u : CompiledUnit} : p.units[k]? = some u ↔
    ∃ b block, s.benchmarks[k]? = some b ∧ caseBlock s b = .ok block ∧ u = unitOf s k b.name block := by
  obtain ⟨bs, hblocks, rfl⟩ := compile_ok compiled
  obtain ⟨hlength, hget⟩ := List.forall₂_iff_get.1 hblocks
  dsimp only
  rw [getElem?_unitsFrom, Nat.zero_add, Option.map_eq_some_iff]
  constructor
  · rintro ⟨⟨b, block⟩, hpair, rfl⟩
    obtain ⟨hb, hblock⟩ := List.getElem?_zip_eq_some.1 hpair
    obtain ⟨hk, rfl⟩ := List.getElem?_eq_some_iff.1 hb
    obtain ⟨hk', rfl⟩ := List.getElem?_eq_some_iff.1 hblock
    exact ⟨_, _, hb, hget k hk hk', rfl⟩
  · rintro ⟨b, block, hb, hblock, rfl⟩
    obtain ⟨hk, rfl⟩ := List.getElem?_eq_some_iff.1 hb
    have hk' : k < bs.length := hlength ▸ hk
    obtain rfl : bs[k] = block := Except.ok.inj ((hget k hk hk').symm.trans hblock)
    exact ⟨(s.benchmarks[k], bs[k]), List.getElem?_zip_eq_some.2 ⟨hb, List.getElem?_eq_getElem hk'⟩, rfl⟩

/-! ## Blocks -/

theorem toolBlock_ok {case name : String} {block : List String} (h : toolBlock s case name = .ok block) :
    ∃ tool prompt model, block = toolLines name tool prompt model := by
  unfold toolBlock at h
  cases ht : Table.get? name s.tools with
  | none =>
    rw [ht] at h
    cases h
  | some tool =>
    rw [ht] at h
    dsimp only at h
    split_ifs at h with hschema
    obtain ⟨⟨prompt, model⟩, -, hblock⟩ := of_bind_ok h
    exact ⟨tool, prompt, model, (Except.ok.inj hblock).symm⟩

theorem caseBlock_ok {b : Benchmark} {block : List String} (h : caseBlock s b = .ok block) :
    ∃ input tools, List.Forall₂ (fun name lines => toolBlock s b.name name = .ok lines) b.tools tools ∧
      block = testLines s.agent b input tools := by
  unfold caseBlock at h
  cases hm : b.firstUserMessage? with
  | none =>
    rw [hm] at h
    cases h
  | some input =>
    rw [hm] at h
    dsimp only at h
    split_ifs at h with hjudge
    obtain ⟨tools, htools, hblock⟩ := of_bind_ok h
    exact ⟨input, tools, forall₂_of_mapM htools, (Except.ok.inj hblock).symm⟩

end AgentTrial.Program
