import AgentTrial.Proofs.Program.Line
import AgentTrial.Proofs.Program.Reference
import AgentTrial.Proofs.Program.Telling

/-!
# Agreement — what equal specifications compile to

Equality of specifications does not look at the order of tables, and a program lists the schemas and the inputs of its
tools in their order.  So equal specifications fail alike and have units of the same names, but their programs are the
same only where the tables that get into them are in the same order, and the least scores are written alike.

* `Aligned`: the names of two specifications in the same order, where a program shows it.
* `alike_toolBlock`, `alike_caseBlock`: tool by tool and case by case, compiling comes out alike.
* `compile_same`: equal specifications compile alike, and to the same program exactly if they are aligned.
-/

namespace AgentTrial

theorem eq_of_sameOption {α : Type} [DecidableEq α] {a b : Option α}
    (h : sameOption (fun a b => decide (a = b)) a b = true) : a = b := by
  cases a <;> cases b <;> simp_all [sameOption]

theorem forall₂_of_sameList {α : Type} {eq : α → α → Bool} {l m : List α} (h : sameList eq l m = true) :
    List.Forall₂ (fun a b => eq a b = true) l m := by
  induction l generalizing m with
  | nil =>
    cases m with
    | nil => exact .nil
    | cons b m => cases h
  | cons a l ih =>
    cases m with
    | nil => cases h
    | cons b m =>
      rw [sameList, Bool.and_eq_true] at h
      exact .cons h.1 (ih h.2)

namespace Program

open PropertyType

/-- The names of the input of a declared tool, in their order. -/
def inputOutline? (s : Specification) (name : String) : Option (List (String × Outline)) :=
  (Table.get? name s.tools).map fun tool => outlineFields tool.input

/-- Two cases show their tools and scores alike: the inputs of the tools that they permit have their names in the same
order, and their least scores are written alike. -/
structure AlignedCase (s t : Specification) (b c : Benchmark) : Prop where
  inputs : ∀ name ∈ b.tools, inputOutline? s name = inputOutline? t name
  scores : b.judge.minScore.map Decimal.program.render = c.judge.minScore.map Decimal.program.render

/-- Two specifications with the names of their schemas in the same order, and with cases that are shown alike. -/
structure Aligned (s t : Specification) : Prop where
  schemas : outlineFields s.schemas = outlineFields t.schemas
  cases : List.Forall₂ (AlignedCase s t) s.benchmarks t.benchmarks

/-! ## Lines in a row -/

section Lines

variable {α : Type} {P Q : Prop} {a b : String} {ls ms : List String}

/-- What a line tells, and then the lines after it. -/
theorem tells_cons (h : Tells id P a b) (h' : Tells unlines Q ls ms) : Tells unlines (P ∧ Q) (a :: ls) (b :: ms) := by
  refine ⟨fun ⟨hP, hQ⟩ => by rw [h.eq hP, h'.eq hQ], fun r r' ht => ?_⟩
  simp only [unlines_cons, String.append_assoc] at ht
  obtain ⟨hP, ht⟩ := h.told _ _ ht
  obtain ⟨hQ, ht⟩ := h'.told _ _ ((String.append_right_inj _).1 ht)
  exact ⟨⟨hP, hQ⟩, ht⟩

theorem tells_append {ls' ms' : List String} (h : Tells unlines P ls ms) (h' : Tells unlines Q ls' ms') :
    Tells unlines (P ∧ Q) (ls ++ ls') (ms ++ ms') := by
  refine ⟨fun ⟨hP, hQ⟩ => by rw [h.eq hP, h'.eq hQ], fun r r' ht => ?_⟩
  rw [unlines_append, unlines_append, String.append_assoc, String.append_assoc] at ht
  obtain ⟨hP, ht⟩ := h.told _ _ ht
  obtain ⟨hQ, ht⟩ := h'.told _ _ ht
  exact ⟨⟨hP, hQ⟩, ht⟩

/-- Two lists of as many blocks, each after a lead, with lines that tell a condition. -/
structure BlocksTell (lead : List String) (P : Prop) (count : Nat) (blocks blocks' : List (List String)) : Prop where
  length : blocks.length = count
  length' : blocks'.length = count
  tells : Tells (fun blocks => unlines (blocks.flatMap (lead ++ ·))) P blocks blocks'

theorem BlocksTell.nil (lead : List String) : BlocksTell lead True 0 [] [] := ⟨rfl, rfl, .refl []⟩

theorem BlocksTell.cons {lead : List String} {count : Nat} {blocks blocks' : List (List String)}
    (h : Tells unlines P ls ms) (h' : BlocksTell lead Q count blocks blocks') :
    BlocksTell lead (P ∧ Q) (count + 1) (ls :: blocks) (ms :: blocks') := by
  refine ⟨congrArg Nat.succ h'.length, congrArg Nat.succ h'.length', fun ⟨hP, hQ⟩ => ?_, fun r r' ht => ?_⟩
  · rw [h.eq hP, h'.tells.eq hQ]
  · simp only [List.flatMap_cons, unlines_append, String.append_assoc, String.append_right_inj] at ht
    obtain ⟨hP, ht⟩ := h.told _ _ ht
    obtain ⟨hQ, ht⟩ := h'.tells.told _ _ ht
    exact ⟨⟨hP, hQ⟩, ht⟩

theorem BlocksTell.congr {lead : List String} {count : Nat} {blocks blocks' : List (List String)}
    (h : BlocksTell lead P count blocks blocks') (hPQ : P ↔ Q) : BlocksTell lead Q count blocks blocks' :=
  ⟨h.length, h.length', h.tells.congr hPQ⟩

end Lines

/-! ## Equal specifications -/

section Agreement

variable {s t : Specification} {b c : Benchmark}

theorem same_parts (same : s.same t = true) : s.metadata = t.metadata ∧ s.agent = t.agent ∧
    Table.same PropertyType.same s.schemas t.schemas = true ∧
    Table.same (fun a b => decide (a = b)) s.generators t.generators = true ∧
    Table.same Tool.same s.tools t.tools = true ∧
    List.Forall₂ (fun b c => b.same c = true) s.benchmarks t.benchmarks := by
  simp only [Specification.same, Bool.and_eq_true, decide_eq_true_eq] at same
  obtain ⟨⟨⟨⟨⟨⟨metadata, schemas⟩, generators⟩, agent⟩, tools⟩, benchmarks⟩, -⟩ := same
  exact ⟨metadata, agent, schemas, generators, tools, forall₂_of_sameList benchmarks⟩

theorem benchmark_parts (same : b.same c = true) : b.name = c.name ∧ b.messages = c.messages ∧ b.tools = c.tools ∧
    b.judge.prompt = c.judge.prompt ∧ b.judge.schema = c.judge.schema ∧ b.judge.model = c.judge.model ∧
    sameNumber b.judge.minScore c.judge.minScore = true := by
  simp only [Benchmark.same, Judge.same, Bool.and_eq_true, beq_iff_eq, decide_eq_true_eq] at same
  obtain ⟨⟨⟨name, messages⟩, tools⟩, ⟨⟨prompt, schema⟩, score⟩, model⟩ := same
  exact ⟨name, messages, tools, prompt, schema, model, score⟩

theorem toolSource_eq (hs : s.Distinct) (same : s.same t = true) {tool tool' : Tool}
    (description : tool.description = tool'.description) (generator : tool.generator = tool'.generator)
    (case name : String) : toolSource s case name tool = toolSource t case name tool' := by
  obtain ⟨-, -, -, generators, -⟩ := same_parts same
  have found (g : String) : Table.get? g s.generators = Table.get? g t.generators :=
    eq_of_sameOption (Table.get?_of_same hs.generators generators g)
  unfold toolSource defaultToolPrompt
  rw [description, generator]
  cases tool'.generator with
  | none => rfl
  | some g =>
    dsimp only
    rw [found]

/-- The lines of equal tools tell whether their inputs have their names in the same order. -/
theorem tells_toolLines {tool tool' : Tool} (distinct : (object tool'.input).Distinct) (same : tool.same tool' = true)
    (name prompt : String) (model : Option String) :
    Tells unlines (outlineFields tool.input = outlineFields tool'.input) (toolLines name tool prompt model)
      (toolLines name tool' prompt model) := by
  simp only [Tool.same, Bool.and_eq_true, beq_iff_eq] at same
  obtain ⟨⟨⟨description, input⟩, output⟩, -⟩ := same
  rw [← same_object] at input
  have hvalidator := (tells_validator distinct input).between "        parameters: " ","
  unfold toolLines objectValidator
  rw [description, output]
  refine (tells_cons (.refl _) (tells_cons (.refl _) (tells_cons hvalidator (.refl _)))).congr ?_
  simp [outline]

/-- A tool comes out alike, and its lines tell whether its input has its names in the same order. -/
theorem alike_toolBlock (hs : s.Distinct) (ht : t.Distinct) (same : s.same t = true) (case name : String) :
    Alike (Tells unlines (inputOutline? s name = inputOutline? t name)) (toolBlock s case name)
      (toolBlock t case name) := by
  obtain ⟨-, -, schemas, -, tools, -⟩ := same_parts same
  have hfound := Table.get?_of_same hs.tools tools name
  unfold toolBlock inputOutline?
  cases hget : Table.get? name s.tools with
  | none =>
    cases hget' : Table.get? name t.tools with
    | none => exact .error _
    | some tool' => simp [hget, hget', sameOption] at hfound
  | some tool =>
    cases hget' : Table.get? name t.tools with
    | none => simp [hget, hget', sameOption] at hfound
    | some tool' =>
      simp only [hget, hget', sameOption] at hfound
      have htool := hfound
      simp only [Tool.same, Bool.and_eq_true, beq_iff_eq] at htool
      obtain ⟨⟨⟨description, -⟩, output⟩, generator⟩ := htool
      simp only [output, Table.has_of_same hs.schemas schemas, toolSource_eq hs same description generator case name]
      split_ifs with hschema
      · cases toolSource t case name tool' with
        | error e => exact .error e
        | ok source =>
          have hlines := tells_toolLines (ht.inputs _ (Table.mem_of_get? hget')) hfound name source.1 source.2
          exact .ok (hlines.congr (by simp))
      · exact .error _

theorem alike_tools (hs : s.Distinct) (ht : t.Distinct) (same : s.same t = true) (case : String)
    (names : List String) :
    Alike (BlocksTell [] (∀ name ∈ names, inputOutline? s name = inputOutline? t name) names.length)
      (names.mapM (toolBlock s case)) (names.mapM (toolBlock t case)) := by
  let R (name _ : String) := Tells unlines (inputOutline? s name = inputOutline? t name)
  let S (names _ : List String) :=
    BlocksTell [] (∀ name ∈ names, inputOutline? s name = inputOutline? t name) names.length
  have hnil : S [] [] [] [] := (BlocksTell.nil []).congr (by simp)
  refine alike_mapM (R := R) (S := S) hnil (fun hblock hblocks => ?_)
    (List.forall₂_same.2 fun name _ => alike_toolBlock hs ht same case name)
  exact (hblocks.cons hblock).congr (by simp)

theorem tells_toolsLines {P : Prop} {count : Nat} {tools tools' : List (List String)}
    (h : BlocksTell [] P count tools tools') : Tells unlines P (toolsLines tools) (toolsLines tools') := by
  have hlength : tools.length = tools'.length := h.length.trans h.length'.symm
  have hflat : Tells unlines P tools.flatten tools'.flatten :=
    ⟨fun hP => by rw [h.tells.eq hP], fun r r' ht => h.tells.told r r' (by simpa using ht)⟩
  unfold toolsLines
  cases tools with
  | nil =>
    obtain rfl : tools' = [] := List.length_eq_zero_iff.1 hlength.symm
    have hP := (h.tells.told "" "" rfl).1
    exact (Tells.refl _).congr (by simp [hP])
  | cons block tools =>
    cases tools' with
    | nil => cases hlength
    | cons block' tools' =>
      exact (tells_cons (.refl _) (tells_append hflat (.refl _))).congr (by simp)

/-- The line of the least score tells how it is written. -/
theorem tells_score {x y : Option Float} (same : sameNumber x y = true) :
    Tells unlines (x.map Decimal.program.render = y.map Decimal.program.render)
      (x.elim [] fun x => ["    expect(verdict.score).toBeGreaterThanOrEqual(" ++ Decimal.program.render x ++ ");"])
      (y.elim [] fun y => ["    expect(verdict.score).toBeGreaterThanOrEqual(" ++ Decimal.program.render y ++ ");"]) := by
  cases x with
  | none =>
    cases y with
    | none => exact (Tells.refl []).congr (by simp)
    | some y => cases same
  | some x =>
    cases y with
    | none => cases same
    | some y =>
      have hline := (Tells.refl "    expect(verdict.score).toBeGreaterThanOrEqual(").append
        fun _ => Decimal.tells_render x y
      rw [← String.append_assoc, ← String.append_assoc] at hline
      exact (tells_cons hline (.refl [])).congr (by simp)

theorem tells_testLines {P : Prop} {tools tools' : List (List String)} (same : b.same c = true)
    (htools : BlocksTell [] P b.tools.length tools tools') (agent : Agent) (input : String) :
    Tells unlines (P ∧ b.judge.minScore.map Decimal.program.render = c.judge.minScore.map Decimal.program.render)
      (testLines agent b input tools) (testLines agent c input tools') := by
  obtain ⟨name, -, permitted, prompt, schema, model, score⟩ := benchmark_parts same
  have hscore := tells_score score
  have hlines := tells_toolsLines htools
  unfold testLines
  rw [name, permitted, prompt, schema, model]
  refine (tells_append (tells_append (tells_append (tells_append (tells_append (tells_append (tells_append (.refl _)
    hlines) (.refl _)) (.refl _)) (.refl _)) (.refl _)) hscore) (.refl _)).congr ?_
  tauto

/-- A case comes out alike, and its lines tell whether it is aligned. -/
theorem alike_caseBlock (hs : s.Distinct) (ht : t.Distinct) (same : s.same t = true) (hb : b.same c = true) :
    Alike (Tells unlines (AlignedCase s t b c)) (caseBlock s b) (caseBlock t c) := by
  obtain ⟨-, agent, schemas, -⟩ := same_parts same
  obtain ⟨name, messages, permitted, -, schema, -⟩ := benchmark_parts hb
  unfold caseBlock Benchmark.firstUserMessage?
  rw [messages, schema, name, ← permitted, Table.has_of_same hs.schemas schemas, ← agent]
  cases (c.messages.find? (·.role = .user)).map (·.content) with
  | none => exact .error _
  | some input =>
    dsimp only
    split_ifs with hjudge
    · refine (alike_tools hs ht same c.name b.tools).bind fun tools tools' htools => .ok ?_
      exact (tells_testLines hb htools s.agent input).congr ⟨fun h => ⟨h.1, h.2⟩, fun h => ⟨h.inputs, h.scores⟩⟩
    · exact .error _

theorem alike_blocks (hs : s.Distinct) (ht : t.Distinct) (same : s.same t = true) :
    Alike (BlocksTell [""] (List.Forall₂ (AlignedCase s t) s.benchmarks t.benchmarks) s.benchmarks.length) (blocks s)
      (blocks t) := by
  obtain ⟨-, -, -, -, -, benchmarks⟩ := same_parts same
  let R (b c : Benchmark) := Tells unlines (AlignedCase s t b c)
  let S (bs cs : List Benchmark) := BlocksTell [""] (List.Forall₂ (AlignedCase s t) bs cs) bs.length
  have hnil : S [] [] [] [] := (BlocksTell.nil [""]).congr (by simp)
  refine alike_mapM (R := R) (S := S) hnil (fun hblock hblocks => ?_)
    (benchmarks.imp fun b c hb => alike_caseBlock hs ht same hb)
  exact (hblocks.cons hblock).congr (by simp)

theorem empty_cons_intercalate (block : List String) (blocks : List (List String)) :
    "" :: [""].intercalate (block :: blocks) = (block :: blocks).flatMap ([""] ++ ·) := by
  induction blocks generalizing block with
  | nil => simp
  | cons next blocks ih => rw [List.intercalate_cons_cons, List.flatMap_cons, ← ih]; simp

theorem tells_intercalate {P : Prop} {count : Nat} {bs bs' : List (List String)}
    (h : BlocksTell [""] P count bs bs') : Tells unlines P ([""].intercalate bs) ([""].intercalate bs') := by
  have hlength : bs.length = bs'.length := h.length.trans h.length'.symm
  refine ⟨fun hP => by rw [h.tells.eq hP], fun r r' ht => ?_⟩
  cases bs with
  | nil =>
    obtain rfl : bs' = [] := List.length_eq_zero_iff.1 hlength.symm
    exact h.tells.told r r' ht
  | cons block blocks =>
    cases bs' with
    | nil => cases hlength
    | cons block' blocks' =>
      refine h.tells.told r r' ?_
      simp only [← empty_cons_intercalate, unlines_cons, String.append_assoc, ht]

/-- The lines of the schemas tell whether their names are in the same order, at every depth. -/
theorem tells_schemaLines {fields others all : List (String × PropertyType)} (distinct : DistinctFields others)
    (found : ∀ e ∈ others, Table.get? e.1 all = some e.2)
    (matched : ∀ e ∈ fields, ∃ q, Table.get? e.1 all = some q ∧ e.2.same q = true)
    (length : fields.length = others.length) :
    Tells unlines (outlineFields fields = outlineFields others) (fields.map schemaLine) (others.map schemaLine) := by
  induction fields generalizing others with
  | nil =>
    obtain rfl : others = [] := List.length_eq_zero_iff.1 length.symm
    exact (Tells.refl []).congr (by simp)
  | cons f fields ih =>
    obtain ⟨name, p⟩ := f
    cases others with
    | nil => cases length
    | cons g others =>
      obtain ⟨other, q⟩ := g
      obtain ⟨q', hq', hsame⟩ := matched (name, p) List.mem_cons_self
      have hq := found (other, q) List.mem_cons_self
      have htype : name = other → Tells id (p.outline = q.outline) p.validator q.validator := by
        rintro rfl
        obtain rfl := Option.some.inj (hq.symm.trans hq')
        exact tells_validator distinct.1 hsame
      have hline : Tells id (name = other ∧ p.outline = q.outline) (schemaLine (name, p)) (schemaLine (other, q)) := by
        unfold schemaLine
        refine (((((Tells.refl _).append fun _ => tells_literal name other).append fun _ => .refl _).append
          fun hname => htype hname.1.2).append fun _ => .refl _).congr ?_
        tauto
      have hrest := ih distinct.2 (fun e he => found e (List.mem_cons_of_mem _ he))
        (fun e he => matched e (List.mem_cons_of_mem _ he)) (Nat.succ.inj length)
      refine (tells_cons hline hrest).congr ?_
      simp [outlineFields]

theorem tells_lines (ht : t.Distinct) (same : s.same t = true) {bs bs' : List (List String)}
    (h : BlocksTell [""] (List.Forall₂ (AlignedCase s t) s.benchmarks t.benchmarks) s.benchmarks.length bs bs') :
    Tells unlines (Aligned s t) (lines s bs) (lines t bs') := by
  obtain ⟨metadata, agent, schemas, -⟩ := same_parts same
  have hschemas := tells_schemaLines (distinctFields_iff.2 ht.schemaTypes)
    (fun e he => Table.get?_of_mem ht.schemas he) (fun e he => Table.exists_of_same schemas he)
    (Table.length_of_same schemas)
  unfold lines header preamble suite
  rw [metadata, agent]
  refine (tells_append (tells_cons (.refl _) (tells_cons (.refl _) (tells_append (tells_append (.refl _) hschemas)
    (.refl _)))) (tells_cons (.refl _) (tells_append (tells_cons (.refl _) (tells_intercalate h)) (.refl _)))).congr ?_
  exact ⟨fun h => ⟨by tauto, by tauto⟩, fun h => by have := h.schemas; have := h.cases; tauto⟩

/-- Aligned specifications list the same schemas. -/
theorem Aligned.schemas_eq (ht : t.Distinct) (same : s.same t = true) (h : Aligned s t) : s.schemas = t.schemas := by
  obtain ⟨-, -, schemas, -⟩ := same_parts same
  exact eq_of_sameFields (distinctFields_iff.2 ht.schemaTypes) (fun e he => Table.get?_of_mem ht.schemas he)
    (fun e he => Table.exists_of_same schemas he) h.schemas

/-- The units of a specification depend on the names of its cases, their blocks and what all units have. -/
theorem unitsFrom_eq (hlines : ∀ bs, lines s bs = lines t bs) {l m : List Benchmark}
    (names : l.map (·.name) = m.map (·.name)) (bs : List (List String)) (index : Nat) :
    unitsFrom s index (l.zip bs) = unitsFrom t index (m.zip bs) := by
  induction l generalizing m bs index with
  | nil =>
    obtain rfl : m = [] := List.map_eq_nil_iff.1 names.symm
    rfl
  | cons b l ih =>
    cases m with
    | nil => cases names
    | cons c m =>
      obtain ⟨name, names⟩ := List.cons.inj names
      cases bs with
      | nil => rfl
      | cons block bs =>
        dsimp only at name
        rw [List.zip_cons_cons, List.zip_cons_cons, unitsFrom, unitsFrom, unitOf, unitOf, name, hlines, ih names]

/-- The name and the file stem of every unit. -/
theorem names_unitsFrom {l : List Benchmark} {bs : List (List String)} (length : bs.length = l.length) (index : Nat) :
    (unitsFrom s index (l.zip bs)).map (fun u => (u.name, u.fileStem)) =
      (l.map (·.name)).mapIdx fun i name => (name, fileStem (i + index) name) := by
  induction l generalizing bs index with
  | nil => rfl
  | cons b l ih =>
    cases bs with
    | nil => cases length
    | cons block bs =>
      rw [List.zip_cons_cons, unitsFrom, List.map_cons, ih (Nat.succ.inj length), List.map_cons, List.mapIdx_cons]
      simp [unitOf, Nat.add_comm, Nat.add_left_comm]

theorem alike_compile (hs : s.Distinct) (ht : t.Distinct) (same : s.same t = true) :
    Alike (fun p q => p.specName = q.specName ∧
      p.units.map (fun u => (u.name, u.fileStem)) = q.units.map (fun u => (u.name, u.fileStem)) ∧
      (p = q ↔ Aligned s t) ∧ (p.combined = q.combined ↔ Aligned s t)) (compile s) (compile t) := by
  obtain ⟨metadata, agent, -, -, -, benchmarks⟩ := same_parts same
  have names : s.benchmarks.map (·.name) = t.benchmarks.map (·.name) := by
    rw [← List.forall₂_eq_eq_eq, List.forall₂_map_left_iff, List.forall₂_map_right_iff]
    exact benchmarks.imp fun b c hb => (benchmark_parts hb).1
  refine (alike_blocks hs ht same).bind fun bs bs' h => ?_
  have told := (tells_lines ht same h).iff_text_eq
  refine .ok ⟨congrArg Metadata.name metadata, ?_, ⟨fun heq => ?_, fun aligned => ?_⟩, ?_⟩
  · rw [names_unitsFrom h.length, names_unitsFrom (h.length'.trans benchmarks.length_eq), names]
  · injection heq with _ _ hcombined
    exact told.2 hcombined
  · have hlines := lines_eq (congrArg Metadata.name metadata) (congrArg Metadata.version metadata) agent
      (aligned.schemas_eq ht same)
    obtain rfl := h.tells.eq aligned.cases
    rw [hlines, metadata, unitsFrom_eq hlines names]
  · dsimp only
    exact told.symm

/-- Equal specifications compile alike: both fail for the same reason, or both give a program of the same name, with
units of the same names and file stems.  The programs are the same, units and all, exactly if the specifications are
aligned, and if they are not, the combined programs already differ. -/
theorem compile_same (hs : s.Distinct) (ht : t.Distinct) (same : s.same t = true) :
    (∀ e, compile s = .error e ↔ compile t = .error e) ∧
    ∀ p q, compile s = .ok p → compile t = .ok q → p.specName = q.specName ∧
      p.units.map (fun u => (u.name, u.fileStem)) = q.units.map (fun u => (u.name, u.fileStem)) ∧
      (p = q ↔ Aligned s t) ∧ (p.combined = q.combined ↔ Aligned s t) :=
  ⟨(alike_compile hs ht same).error_iff, fun _ _ hp hq => (alike_compile hs ht same).related hp hq⟩

/-- A specification with two schemas, one of which judges its only case. -/
def judged : Specification where
  metadata := ⟨"weather", "0.1.0", none⟩
  schemas := [("verdict", .object [("passed", .boolean)]), ("report", .string)]
  agent := ⟨"m", "p", .auto, none⟩
  benchmarks := [⟨"warm", [⟨.user, "hi"⟩], [], ⟨"Is it?", "verdict", none, none⟩⟩]

/-- The same specification with its schemas the other way round. -/
def rejudged : Specification := { judged with schemas := judged.schemas.reverse }

theorem distinct_judged : judged.Distinct :=
  ⟨by decide, by simp [judged, PropertyType.Distinct, DistinctFields, Table.keys], by decide, by decide, nofun⟩

theorem distinct_rejudged : rejudged.Distinct :=
  ⟨by decide, by simp [rejudged, judged, PropertyType.Distinct, DistinctFields, Table.keys], by decide, by decide,
    nofun⟩

theorem same_rejudged : judged.same rejudged = true := by
  simp [judged, rejudged, Specification.same, Table.same, Table.get?, PropertyType.same, sameFields, sameAt, sameList,
    Benchmark.same, Judge.same, sameNumber, sameOption]

theorem compiles_judged : (∃ p, compile judged = .ok p) ∧ ∃ q, compile rejudged = .ok q :=
  ⟨Specification.compiles_of_valid (by decide), Specification.compiles_of_valid (by decide)⟩

theorem not_aligned_judged : ¬ Aligned judged rejudged := by
  rintro ⟨schemas, -⟩
  simp [judged, rejudged, outlineFields] at schemas

theorem compile_same_judged : judged.Distinct ∧ rejudged.Distinct ∧ judged.same rejudged = true ∧
    ∃ p q, compile judged = .ok p ∧ compile rejudged = .ok q ∧ p.specName = q.specName ∧ p.combined ≠ q.combined := by
  obtain ⟨⟨p, hp⟩, q, hq⟩ := compiles_judged
  obtain ⟨name, -, -, combined⟩ := (compile_same distinct_judged distinct_rejudged same_rejudged).2 p q hp hq
  exact ⟨distinct_judged, distinct_rejudged, same_rejudged, p, q, hp, hq, name,
    fun h => not_aligned_judged (combined.1 h)⟩

/-- Equal specifications do not compile to the same program. -/
theorem compile_shows_order : judged.same rejudged = true ∧ compile judged ≠ compile rejudged := by
  obtain ⟨⟨p, hp⟩, q, hq⟩ := compiles_judged
  refine ⟨same_rejudged, fun h => not_aligned_judged ?_⟩
  have related := (alike_compile distinct_judged distinct_rejudged same_rejudged).related hp hq
  rw [hp, hq] at h
  exact related.2.2.1.1 (Except.ok.inj h)

end Agreement

end Program

end AgentTrial
