import AgentTrial.Proofs.Program.Isolation
import AgentTrial.Proofs.Program.Line
import AgentTrial.Proofs.Program.Reference

/-!
# Assembly — how programs are put together from test blocks

The units of a specification and its combined program are put together apart from each other.  They hold the same test
blocks between the same two texts: a unit one of them, and the combined program all of them in a row.

* `opening`, `closing`: the texts before and after the blocks.
* `unlines_lines`: the text of a program with some blocks.
* `Assembled`: the names and the sources of the units and the combined program, from the texts of the blocks.
* `compile_assembled`: every program is assembled from the blocks of its cases, and there is one unless a block fails.
-/

namespace AgentTrial.Program

/-- The text before the test blocks: the first line, the preamble and the head of the suite. -/
def opening (s : Specification) : String :=
  unlines (header s :: "" :: preamble s ++ ["", "describe(" ++ Text.literal s.metadata.name ++ ", () => \x7b"])

/-- The text after the test blocks. -/
def closing : String := unlines ["\x7d);"]

/-- The text of the test block of a case. -/
def blockText (s : Specification) (b : Benchmark) : Except CompileError String := (caseBlock s b).map unlines

/-- A program is put together from the texts of these blocks. -/
structure Assembled (s : Specification) (texts : List String) (p : SourceProgram) : Prop where
  names : p.units.map (·.name) = s.benchmarks.map (·.name)
  sources : p.units.map (·.source) = texts.map fun text => opening s ++ text ++ closing
  combined : p.combined = opening s ++ "\n".intercalate texts ++ closing

section Text

variable {s : Specification} {b : Benchmark}

theorem blockText_ok_iff {text : String} : blockText s b = .ok text ↔
    ∃ block, caseBlock s b = .ok block ∧ unlines block = text := by
  unfold blockText
  cases caseBlock s b with
  | error e => simp [Except.map]
  | ok block => simp [Except.map]

theorem blockText_error_iff {e : CompileError} : blockText s b = .error e ↔ caseBlock s b = .error e := by
  unfold blockText
  cases caseBlock s b with
  | error e' => simp [Except.map]
  | ok block => simp [Except.map]

theorem exists_blockText_iff : (∃ text, blockText s b = .ok text) ↔ ∃ block, caseBlock s b = .ok block := by
  simp only [blockText_ok_iff]
  constructor
  · rintro ⟨_, block, hblock, -⟩
    exact ⟨block, hblock⟩
  · rintro ⟨block, hblock⟩
    exact ⟨_, block, hblock, rfl⟩

/-- The empty line between two blocks is the line feed that joins their texts. -/
theorem unlines_intercalate (bs : List (List String)) :
    unlines ([""].intercalate bs) = "\n".intercalate (bs.map unlines) := by
  have hfeed : unlines [""] = "\n" := by decide
  induction bs with
  | nil => simp [unlines]
  | cons block bs ih =>
    cases bs with
    | nil => simp
    | cons next bs =>
      rw [List.intercalate_cons_cons, unlines_append, unlines_append, hfeed, ih]
      simp only [List.map_cons, String.intercalate_cons_cons]

/-- Whatever the blocks are, the same text stands before them and the same one after them. -/
theorem unlines_lines (s : Specification) (bs : List (List String)) :
    unlines (lines s bs) = opening s ++ "\n".intercalate (bs.map unlines) ++ closing := by
  have hsplit : lines s bs = (header s :: "" :: preamble s ++
      ["", "describe(" ++ Text.literal s.metadata.name ++ ", () => \x7b"]) ++ [""].intercalate bs ++ ["\x7d);"] := by
    simp [lines, suite]
  rw [hsplit, unlines_append, unlines_append, unlines_intercalate, opening, closing]

end Text

section Units

variable {s : Specification}

theorem source_unitOf_eq (index : Nat) (name : String) (block : List String) :
    (unitOf s index name block).source = opening s ++ unlines block ++ closing := by
  rw [source_unitOf, unlines_lines]
  simp

/-- What depends on a case and its block alone is the same at every index. -/
theorem map_unitsFrom {β : Type} {g : CompiledUnit → β} {h : Benchmark × List String → β}
    (unit : ∀ index x, g (unitOf s index x.1.name x.2) = h x) (index : Nat) (l : List (Benchmark × List String)) :
    (unitsFrom s index l).map g = l.map h := by
  induction l generalizing index with
  | nil => rfl
  | cons x l ih => rw [unitsFrom, List.map_cons, unit, ih, List.map_cons]

theorem assembled_of_blocks {bs : List (List String)} (length : s.benchmarks.length = bs.length) :
    Assembled s (bs.map unlines) ⟨s.metadata.name, unitsFrom s 0 (s.benchmarks.zip bs), unlines (lines s bs)⟩ := by
  have hcases : (s.benchmarks.zip bs).map Prod.fst = s.benchmarks := List.map_fst_zip (Nat.le_of_eq length)
  have hblocks : (s.benchmarks.zip bs).map Prod.snd = bs := List.map_snd_zip (Nat.le_of_eq length.symm)
  refine ⟨?_, ?_, ?_⟩
  · calc (unitsFrom s 0 (s.benchmarks.zip bs)).map (·.name)
      _ = (s.benchmarks.zip bs).map (·.1.name) := map_unitsFrom (fun _ _ => rfl) 0 _
      _ = ((s.benchmarks.zip bs).map Prod.fst).map (·.name) := by rw [List.map_map, Function.comp_def]
      _ = s.benchmarks.map (·.name) := by rw [hcases]
  · calc (unitsFrom s 0 (s.benchmarks.zip bs)).map (·.source)
      _ = (s.benchmarks.zip bs).map (fun x => opening s ++ unlines x.2 ++ closing) :=
        map_unitsFrom (fun index x => source_unitOf_eq index x.1.name x.2) 0 _
      _ = ((s.benchmarks.zip bs).map Prod.snd).map (fun block => opening s ++ unlines block ++ closing) := by
        rw [List.map_map, Function.comp_def]
      _ = (bs.map unlines).map (fun text => opening s ++ text ++ closing) := by
        rw [hblocks, List.map_map, Function.comp_def]
  · dsimp only
    exact unlines_lines s bs

variable {p : SourceProgram} {texts : List String}

theorem Assembled.length_units (h : Assembled s texts p) : p.units.length = s.benchmarks.length := by
  have hlength := congrArg List.length h.names
  rwa [List.length_map, List.length_map] at hlength

/-- The program of a single case is its unit. -/
theorem Assembled.combined_of_single (h : Assembled s texts p) (single : s.benchmarks.length = 1) :
    ∃ u, p.units = [u] ∧ p.combined = u.source := by
  obtain ⟨u, hu⟩ := List.length_eq_one_iff.1 (h.length_units.trans single)
  have hsources := h.sources
  rw [hu, List.map_singleton] at hsources
  obtain ⟨text, rfl⟩ : ∃ text, texts = [text] := by
    have hlength := congrArg List.length hsources
    rw [List.length_map] at hlength
    exact List.length_eq_one_iff.1 hlength.symm
  obtain ⟨hsource, -⟩ := List.cons.inj hsources
  refine ⟨u, hu, ?_⟩
  rw [h.combined, String.intercalate_singleton, hsource]

end Units

/-- The units and the combined program agree.  Compiling gives all or nothing: it fails with the error of the first case
whose block fails, and otherwise there is one unit for each case, in their order and with their names.  The source of a
unit is the text of its block between two texts that all units share, and the combined program has all blocks between
the same two texts, joined by line feeds; with one case the two are the same. -/
theorem compile_assembled (s : Specification) :
    (∀ e, compile s = .error e ↔ ∃ before b after, s.benchmarks = before ++ b :: after ∧
      (∀ c ∈ before, ∃ text, blockText s c = .ok text) ∧ blockText s b = .error e) ∧
    ((∃ p, compile s = .ok p) ↔ ∀ b ∈ s.benchmarks, ∃ text, blockText s b = .ok text) ∧
    ∀ p, compile s = .ok p →
      (∃ texts, List.Forall₂ (fun b text => blockText s b = .ok text) s.benchmarks texts ∧ Assembled s texts p) ∧
      p.units.length = s.benchmarks.length ∧
      (s.benchmarks.length = 1 → ∃ u, p.units = [u] ∧ p.combined = u.source) := by
  refine ⟨fun e => ?_, ?_, fun p compiled => ?_⟩
  · rw [compile_error_iff_blocks, blocks, mapM_eq_error_iff]
    simp only [exists_blockText_iff, blockText_error_iff]
  · have hblocks : (∃ p, compile s = .ok p) ↔ ∃ bs, blocks s = .ok bs := by
      constructor
      · rintro ⟨p, hp⟩
        obtain ⟨bs, hbs, -⟩ := of_bind_ok hp
        exact ⟨bs, hbs⟩
      · rintro ⟨bs, hbs⟩
        exact ⟨_, by rw [compile, hbs]; rfl⟩
    rw [hblocks, blocks, mapM_ok_iff]
    simp only [exists_blockText_iff]
  · obtain ⟨bs, hblocks, rfl⟩ := compile_ok compiled
    have assembled := assembled_of_blocks (s := s) hblocks.length_eq
    refine ⟨⟨_, ?_, assembled⟩, assembled.length_units, assembled.combined_of_single⟩
    rw [List.forall₂_map_right_iff]
    exact hblocks.imp fun b block hblock => blockText_ok_iff.2 ⟨block, hblock, rfl⟩

/-- A specification whose second case of three has nothing to ask. -/
def broken : Specification :=
  { crowded with benchmarks := [searching, ⟨"mute", [⟨.system, "hi"⟩], [], ⟨"Is it?", "verdict", none, none⟩⟩,
      ⟨"lost", [⟨.user, "hi"⟩], ["none"], ⟨"Is it?", "verdict", none, none⟩⟩] }

theorem compile_assembled_crowded : compile broken = .error (.missingUserMessage "mute") ∧
    ∃ p a b, compile crowded = .ok p ∧ p.units.map (·.name) = ["wipe", "search"] ∧
      p.units.map (·.source) = [opening crowded ++ a ++ closing, opening crowded ++ b ++ closing] ∧
      p.combined = opening crowded ++ (a ++ "\n" ++ b) ++ closing := by
  obtain ⟨failure, -, -⟩ := compile_assembled broken
  obtain ⟨-, -, program⟩ := compile_assembled crowded
  obtain ⟨p, hp⟩ : ∃ p, compile crowded = .ok p := ⟨_, rfl⟩
  obtain ⟨⟨texts, hblocks, hnames, hsources, hcombined⟩, -, -⟩ := program p hp
  obtain ⟨a, b, rfl⟩ := List.length_eq_two.1 hblocks.length_eq.symm
  refine ⟨(failure _).2 ⟨[searching], _, _, rfl, ?_, rfl⟩, p, a, b, hp, hnames, hsources, ?_⟩
  · exact List.forall_mem_singleton.2 ⟨_, rfl⟩
  · rw [hcombined]
    simp

end AgentTrial.Program
