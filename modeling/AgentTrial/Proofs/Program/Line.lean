import AgentTrial.Proofs.Decimal.Form
import AgentTrial.Proofs.Program.Unit
import AgentTrial.Proofs.Text.Literal
import AgentTrial.Proofs.Text.Mark
import Mathlib.Algebra.GroupWithZero.Nat

/-!
# Line — the lines of a program

Whatever texts get into a program, each of its lines stays one line, and how many there are depends on the shape of the
specification alone.

* `Text.OneLine`: a text without characters that end a line, or that are not seen.
* `Shape`: what the number of lines depends on.
* `compile_lined`: the characters, the first line and the number of lines of every text of a program.
-/

namespace AgentTrial

namespace Text

/-- A text that stays on one line. -/
def OneLine (s : String) : Prop := ∀ c ∈ s.toList, InLine c

instance : DecidablePred OneLine := fun s => List.decidableBAll InLine s.toList

theorem oneLine_append {s t : String} : OneLine (s ++ t) ↔ OneLine s ∧ OneLine t := by
  simp only [OneLine, String.toList_append, List.forall_mem_append]

theorem oneLine_ofList {s : List Char} : OneLine (.ofList s) ↔ ∀ c ∈ s, InLine c := by
  rw [OneLine, String.toList_ofList]

/-- A constant is checked over its own list: deciding `∀ c` would run through every character there is. -/
theorem oneLine_of_all {s : List Char} (h : s.all (fun c => decide (InLine c)) = true) : OneLine (.ofList s) :=
  oneLine_ofList.2 fun c hc => of_decide_eq_true (List.all_eq_true.1 h c hc)

theorem oneLine_literal (s : String) : OneLine (literal s) := inLine_literal s

theorem inLine_commentChar (c : Char) : InLine (commentChar c) := by
  unfold commentChar
  split_ifs with h
  · decide
  · simp only [isControl, Bool.or_eq_true, Bool.and_eq_true, decide_eq_true_eq, beq_iff_eq] at h
    unfold InLine
    omega

theorem oneLine_comment (s : String) : OneLine (comment s) := by
  rw [comment, oneLine_ofList]
  intro c hc
  obtain ⟨d, -, rfl⟩ := List.mem_map.1 hc
  exact inLine_commentChar d

theorem inLine_of_isDigit (c : Char) (h : c.isDigit = true) : InLine c := by
  have hrange : 48 ≤ c.toNat ∧ c.toNat ≤ 57 := by
    simpa [Char.isDigit, UInt32.le_iff_toNat_le] using h
  unfold InLine
  omega

theorem oneLine_nat (n : Nat) : OneLine (toString n) := by
  have hdigits : toString n = .ofList (Nat.toDigits 10 n) := rfl
  rw [hdigits, oneLine_ofList]
  exact fun c hc => inLine_of_isDigit c (Nat.isDigit_of_mem_toDigits (by decide) (by decide) hc)

theorem oneLine_number (x : Float) : OneLine (Decimal.program.render x) :=
  Decimal.forall_mem_program inLine_of_isDigit (by decide) (by decide) (by decide) (by decide) (by decide) x

end Text

open Text

namespace PropertyType

mutual

theorem inLine_validatorChars : ∀ p : PropertyType, ∀ c ∈ p.validatorChars, InLine c
  | string | number | boolean | unknown _ | object [] => by
    unfold validatorChars
    exact oneLine_of_all (by decide +kernel)
  | object (f :: fields) => by
    unfold validatorChars
    have before : OneLine "z.object(\x7b " := oneLine_of_all (by decide +kernel)
    have after : OneLine " \x7d)" := oneLine_of_all (by decide +kernel)
    exact List.forall_mem_append.2 ⟨List.forall_mem_append.2 ⟨List.forall_mem_append.2 ⟨before, inLine_fieldChars f⟩,
      inLine_moreFieldChars fields⟩, after⟩

theorem inLine_fieldChars : ∀ f : String × PropertyType, ∀ c ∈ fieldChars f, InLine c
  | (name, p) => by
    have hname : ∀ c ∈ literalChars name.toList, InLine c := oneLine_ofList.1 (oneLine_literal name)
    unfold fieldChars
    exact List.forall_mem_append.2 ⟨hname, List.forall_mem_cons.2 ⟨by decide, List.forall_mem_cons.2
      ⟨by decide, inLine_validatorChars p⟩⟩⟩

theorem inLine_moreFieldChars : ∀ fields : List (String × PropertyType), ∀ c ∈ moreFieldChars fields, InLine c
  | [] => by
    unfold moreFieldChars
    exact List.forall_mem_nil _
  | f :: fields => by
    unfold moreFieldChars
    exact List.forall_mem_cons.2 ⟨by decide, List.forall_mem_cons.2 ⟨by decide, List.forall_mem_append.2
      ⟨inLine_fieldChars f, inLine_moreFieldChars fields⟩⟩⟩

end

theorem oneLine_validator (p : PropertyType) : OneLine p.validator := oneLine_ofList.2 (inLine_validatorChars p)

end PropertyType

namespace Program

theorem oneLine_header (s : Specification) : OneLine (header s) := by
  unfold header
  simp only [oneLine_append, oneLine_comment, and_true]
  and_intros <;> exact oneLine_of_all (by decide +kernel)

theorem oneLine_schemaLine (schema : String × PropertyType) : OneLine (schemaLine schema) := by
  unfold schemaLine
  simp only [oneLine_append, oneLine_literal, PropertyType.oneLine_validator, and_true]
  and_intros <;> exact oneLine_of_all (by decide +kernel)

theorem oneLine_preamble (s : Specification) : ∀ l ∈ preamble s, OneLine l := by
  have schemas : ∀ l ∈ s.schemas.map schemaLine, OneLine l := by
    intro l hl
    obtain ⟨schema, -, rfl⟩ := List.mem_map.1 hl
    exact oneLine_schemaLine schema
  refine List.forall_mem_append.2 ⟨List.forall_mem_append.2 ⟨?_, schemas⟩, ?_⟩
  · simp only [List.forall_mem_cons, oneLine_append, oneLine_literal, and_true, List.not_mem_nil, false_imp_iff,
      implies_true]
    and_intros <;> exact oneLine_of_all (by decide +kernel)
  · exact List.forall_mem_singleton.2 (oneLine_of_all (by decide +kernel))

theorem oneLine_modelExpression (model : Option String) : OneLine (modelExpression model) := by
  cases model with
  | none => exact oneLine_of_all (by decide +kernel)
  | some m => exact oneLine_literal _

theorem oneLine_toolLines (name : String) (tool : Tool) (prompt : String) (model : Option String) :
    ∀ l ∈ toolLines name tool prompt model, OneLine l := by
  unfold toolLines PropertyType.objectValidator
  simp only [List.forall_mem_cons, oneLine_append, oneLine_literal, PropertyType.oneLine_validator,
    oneLine_modelExpression, and_true, List.not_mem_nil, false_imp_iff, implies_true]
  and_intros <;> exact oneLine_of_all (by decide +kernel)

theorem oneLine_toolsLines {blocks : List (List String)} (h : ∀ block ∈ blocks, ∀ l ∈ block, OneLine l) :
    ∀ l ∈ toolsLines blocks, OneLine l := by
  have flat : ∀ l ∈ blocks.flatten, OneLine l := by
    intro l hl
    obtain ⟨block, hblock, hl⟩ := List.mem_flatten.1 hl
    exact h block hblock l hl
  unfold toolsLines
  split_ifs
  · exact List.forall_mem_singleton.2 (oneLine_of_all (by decide +kernel))
  · refine List.forall_mem_cons.2 ⟨oneLine_of_all (by decide +kernel), List.forall_mem_append.2 ⟨flat, ?_⟩⟩
    exact List.forall_mem_singleton.2 (oneLine_of_all (by decide +kernel))

theorem oneLine_testLines (agent : Agent) (b : Benchmark) (input : String) {tools : List (List String)}
    (h : ∀ block ∈ tools, ∀ l ∈ block, OneLine l) : ∀ l ∈ testLines agent b input tools, OneLine l := by
  have choice : ∀ l ∈ (if b.tools.isEmpty then [] else ["      toolChoice: " ++ literal agent.toolChoice.name ++ ","]),
      OneLine l := by
    split_ifs
    · exact List.forall_mem_nil _
    · simp only [List.forall_mem_singleton, oneLine_append, oneLine_literal, and_true]
      and_intros <;> exact oneLine_of_all (by decide +kernel)
  have steps : ∀ l ∈ agent.maxSteps.elim [] fun n => ["      maxSteps: " ++ toString n ++ ","], OneLine l := by
    cases agent.maxSteps with
    | none => exact List.forall_mem_nil _
    | some n =>
      simp only [Option.elim_some, List.forall_mem_singleton, oneLine_append, oneLine_nat, and_true]
      and_intros <;> exact oneLine_of_all (by decide +kernel)
  have score : ∀ l ∈ b.judge.minScore.elim [] fun x =>
      ["    expect(verdict.score).toBeGreaterThanOrEqual(" ++ Decimal.program.render x ++ ");"], OneLine l := by
    cases b.judge.minScore with
    | none => exact List.forall_mem_nil _
    | some x =>
      simp only [Option.elim_some, List.forall_mem_singleton, oneLine_append, oneLine_number, and_true]
      and_intros <;> exact oneLine_of_all (by decide +kernel)
  unfold testLines
  simp only [List.forall_mem_append]
  refine ⟨⟨⟨⟨⟨⟨⟨?_, oneLine_toolsLines h⟩, ?_⟩, choice⟩, steps⟩, ?_⟩, score⟩, ?_⟩
  all_goals
    simp only [List.forall_mem_cons, oneLine_append, oneLine_literal, oneLine_modelExpression, and_true,
      List.not_mem_nil, false_imp_iff, implies_true]
    and_intros <;> exact oneLine_of_all (by decide +kernel)

/-! ## Lines in a row -/

theorem unlines_cons (l : String) (ls : List String) : unlines (l :: ls) = l ++ "\n" ++ unlines ls := by
  rw [unlines, List.map_cons, String.join_cons]
  rfl

theorem unlines_append (ls ms : List String) : unlines (ls ++ ms) = unlines ls ++ unlines ms := by
  rw [unlines, List.map_append, String.join_append]
  rfl

theorem toList_unlines_cons (l : String) (ls : List String) :
    (unlines (l :: ls)).toList = l.toList ++ '\n' :: (unlines ls).toList := by
  rw [unlines_cons, String.toList_append, String.toList_append, List.append_assoc]
  rfl

theorem feed_notMem {l : String} (h : OneLine l) : '\n' ∉ l.toList := fun hc => absurd (h _ hc) (by decide)

section Unlines

variable {l : String} {ls : List String}

theorem feed_or_inLine (h : ∀ l ∈ ls, OneLine l) : ∀ c ∈ (unlines ls).toList, c = '\n' ∨ InLine c := by
  induction ls with
  | nil => exact List.forall_mem_nil _
  | cons l ls ih =>
    obtain ⟨hl, hls⟩ := List.forall_mem_cons.1 h
    rw [toList_unlines_cons]
    refine List.forall_mem_append.2 ⟨fun c hc => .inr (hl c hc), ?_⟩
    exact List.forall_mem_cons.2 ⟨.inl rfl, ih hls⟩

/-- There is one line feed for each line. -/
theorem count_unlines (h : ∀ l ∈ ls, OneLine l) : (unlines ls).toList.count '\n' = ls.length := by
  induction ls with
  | nil => rfl
  | cons l ls ih =>
    obtain ⟨hl, hls⟩ := List.forall_mem_cons.1 h
    rw [toList_unlines_cons, List.count_append, List.count_eq_zero_of_not_mem (feed_notMem hl), Nat.zero_add,
      List.count_cons_self, ih hls, List.length_cons]

theorem takeWhile_unlines (h : OneLine l) : (unlines (l :: ls)).toList.takeWhile (· ≠ '\n') = l.toList := by
  have before : ∀ c ∈ l.toList, decide (c ≠ '\n') = true := by
    intro c hc
    exact decide_eq_true fun hfeed => feed_notMem h (hfeed ▸ hc)
  rw [toList_unlines_cons, List.takeWhile_append_of_pos before, List.takeWhile_cons_of_neg (by simp), List.append_nil]

end Unlines

/-! ## The lines of a program -/

section Blocks

variable {s : Specification} {b : Benchmark} {block : List String} {bs : List (List String)}

theorem oneLine_caseBlock (h : caseBlock s b = .ok block) : ∀ l ∈ block, OneLine l := by
  obtain ⟨input, tools, htools, rfl⟩ := caseBlock_ok h
  refine oneLine_testLines _ _ _ fun lines hlines => ?_
  obtain ⟨name, -, hname⟩ := exists_of_mem_forall₂ htools hlines
  obtain ⟨tool, prompt, model, rfl⟩ := toolBlock_ok hname
  exact oneLine_toolLines name tool prompt model

theorem oneLine_intercalate (h : ∀ block ∈ bs, ∀ l ∈ block, OneLine l) : ∀ l ∈ [""].intercalate bs, OneLine l := by
  intro l hl
  rcases mem_of_mem_intercalate hl with rfl | ⟨block, hblock, hl⟩
  · decide
  · exact h block hblock l hl

theorem oneLine_lines (h : ∀ block ∈ bs, ∀ l ∈ block, OneLine l) : ∀ l ∈ lines s bs, OneLine l := by
  have gap : OneLine "" := by decide
  have opening : OneLine ("describe(" ++ literal s.metadata.name ++ ", () => \x7b") := by
    simp only [oneLine_append, oneLine_literal, and_true]
    and_intros <;> exact oneLine_of_all (by decide +kernel)
  have closing : ∀ l ∈ ["\x7d);"], OneLine l := List.forall_mem_singleton.2 (oneLine_of_all (by decide +kernel))
  refine List.forall_mem_cons.2 ⟨oneLine_header s, List.forall_mem_cons.2 ⟨gap, List.forall_mem_append.2
    ⟨oneLine_preamble s, List.forall_mem_cons.2 ⟨gap, List.forall_mem_append.2 ⟨?_, closing⟩⟩⟩⟩⟩
  exact List.forall_mem_cons.2 ⟨opening, oneLine_intercalate h⟩

end Blocks

/-! ## How many lines there are -/

/-- What of a case the number of its lines depends on. -/
structure CaseShape where
  tools : Nat
  scored : Bool
  deriving DecidableEq

/-- What of a specification the number of lines of a program depends on. -/
structure Shape where
  schemas : Nat
  stepped : Bool
  cases : List CaseShape
  deriving DecidableEq

/-- The number of lines of the test block of a case. -/
def CaseShape.lineCount (stepped : Bool) (c : CaseShape) : Nat :=
  32 + (if c.tools = 0 then 0 else 12 * c.tools + 2) + stepped.toNat + c.scored.toNat

/-- The number of lines of a program. -/
def Shape.lineCount (h : Shape) : Nat :=
  22 + h.schemas + (h.cases.map (·.lineCount h.stepped)).sum + (h.cases.length - 1)

/-- The shape of a case. -/
def shapeOf (b : Benchmark) : CaseShape := ⟨b.tools.length, b.judge.minScore.isSome⟩

/-- The shape of a program with these cases of a specification. -/
def shape (s : Specification) (cases : List Benchmark) : Shape :=
  ⟨s.schemas.length, s.agent.maxSteps.isSome, cases.map shapeOf⟩

section Count

variable {s : Specification} {b : Benchmark} {block : List String} {bs : List (List String)}

theorem length_toolsLines {tools : List (List String)} (h : ∀ lines ∈ tools, lines.length = 12) :
    (toolsLines tools).length = if tools.length = 0 then 1 else 12 * tools.length + 2 := by
  have flat : tools.flatten.length = 12 * tools.length := by
    rw [List.length_flatten, List.map_congr_left h, List.map_const', List.sum_replicate_nat, Nat.mul_comm]
  unfold toolsLines
  cases tools with
  | nil => rfl
  | cons lines tools =>
    rw [List.isEmpty_cons, if_neg Bool.false_ne_true, List.length_append, List.length_cons, flat]
    rfl

theorem length_caseBlock (h : caseBlock s b = .ok block) :
    block.length = (shapeOf b).lineCount s.agent.maxSteps.isSome := by
  obtain ⟨input, tools, htools, rfl⟩ := caseBlock_ok h
  have hlength := htools.length_eq
  have htwelve : ∀ lines ∈ tools, lines.length = 12 := by
    intro lines hlines
    obtain ⟨name, -, hname⟩ := exists_of_mem_forall₂ htools hlines
    obtain ⟨tool, prompt, model, rfl⟩ := toolBlock_ok hname
    rfl
  have hlines := length_toolsLines htwelve
  have hchoice : (if b.tools.isEmpty then [] else ["      toolChoice: " ++ literal s.agent.toolChoice.name ++ ","]).length =
      if b.tools.length = 0 then 0 else 1 := by
    cases b.tools <;> rfl
  have hsteps : (s.agent.maxSteps.elim [] fun n => ["      maxSteps: " ++ toString n ++ ","]).length =
      s.agent.maxSteps.isSome.toNat := by
    cases s.agent.maxSteps <;> rfl
  have hscore : (b.judge.minScore.elim [] fun x =>
      ["    expect(verdict.score).toBeGreaterThanOrEqual(" ++ Decimal.program.render x ++ ");"]).length =
      b.judge.minScore.isSome.toNat := by
    cases b.judge.minScore <;> rfl
  unfold testLines
  simp only [List.length_append, hlines, hchoice, hsteps, hscore, List.length_cons, List.length_nil, ← hlength]
  unfold CaseShape.lineCount shapeOf
  dsimp only
  split_ifs <;> omega

theorem length_intercalate : ([""].intercalate bs).length = (bs.map List.length).sum + (bs.length - 1) := by
  induction bs with
  | nil => rfl
  | cons block bs ih =>
    cases bs with
    | nil => rw [List.intercalate_singleton]; simp
    | cons next bs =>
      rw [List.intercalate_cons_cons, List.length_append, List.length_append, ih]
      simp only [List.length_cons, List.length_nil, List.map_cons, List.sum_cons]
      omega

theorem length_lines {cases : List Benchmark} (h : List.Forall₂ (fun b block => caseBlock s b = .ok block) cases bs) :
    (lines s bs).length = (shape s cases).lineCount := by
  have hsum : (bs.map List.length).sum = ((cases.map shapeOf).map (·.lineCount s.agent.maxSteps.isSome)).sum := by
    induction h with
    | nil => rfl
    | cons hblock _ ih => rw [List.map_cons, List.sum_cons, length_caseBlock hblock, ih]; rfl
  have hlength := h.length_eq
  unfold lines preamble suite
  simp only [List.length_append, List.length_cons, List.length_nil, List.length_map, length_intercalate, hsum]
  unfold shape Shape.lineCount
  simp only [List.length_map]
  omega

end Count

/-- A text of a program for these cases of a specification: its characters, its first line and the number of its
lines. -/
structure Lined (s : Specification) (cases : List Benchmark) (text : String) : Prop where
  inLine : ∀ c ∈ text.toList, c = '\n' ∨ InLine c
  first : text.toList.takeWhile (· ≠ '\n') = ("// Generated by agentspec from " ++ comment s.metadata.name ++ " v" ++
    comment s.metadata.version ++ ". Do not edit.").toList
  count : text.toList.count '\n' = (shape s cases).lineCount

theorem lined_unlines {s : Specification} {cases : List Benchmark} {bs : List (List String)}
    (h : List.Forall₂ (fun b block => caseBlock s b = .ok block) cases bs) : Lined s cases (unlines (lines s bs)) := by
  have honeLine : ∀ l ∈ lines s bs, OneLine l := oneLine_lines fun block hblock => by
    obtain ⟨b, -, hb⟩ := exists_of_mem_forall₂ h hblock
    exact oneLine_caseBlock hb
  refine ⟨feed_or_inLine honeLine, takeWhile_unlines (oneLine_header s), ?_⟩
  rw [count_unlines honeLine, length_lines h]

section Lined

variable {s : Specification} {p : SourceProgram}

theorem lined_combined (compiled : compile s = .ok p) : Lined s s.benchmarks p.combined := by
  obtain ⟨bs, hblocks, rfl⟩ := compile_ok compiled
  dsimp only
  exact lined_unlines hblocks

theorem lined_unit (compiled : compile s = .ok p) {k : Nat} {u : CompiledUnit} (hu : p.units[k]? = some u) :
    ∃ b, s.benchmarks[k]? = some b ∧ Lined s [b] u.source := by
  obtain ⟨b, block, hb, hblock, rfl⟩ := (unit_iff compiled).1 hu
  have hblocks : List.Forall₂ (fun b block => caseBlock s b = .ok block) [b] [block] := .cons hblock .nil
  rw [source_unitOf]
  exact ⟨b, hb, lined_unlines hblocks⟩

end Lined

/-- No text of a specification changes the lines of its programs: they have no characters that end a line or are not
seen, they begin with the line that names the specification, and their number depends on the shape alone. -/
theorem compile_lined {s : Specification} {p : SourceProgram} (compiled : compile s = .ok p) :
    Lined s s.benchmarks p.combined ∧
    (∀ (k : Nat) (u : CompiledUnit), p.units[k]? = some u → ∃ b, s.benchmarks[k]? = some b ∧ Lined s [b] u.source) ∧
    ∀ t q, compile t = .ok q → shape t t.benchmarks = shape s s.benchmarks →
      q.combined.toList.count '\n' = p.combined.toList.count '\n' ∧
      ∀ (k : Nat) (u v : CompiledUnit), p.units[k]? = some u → q.units[k]? = some v →
        v.source.toList.count '\n' = u.source.toList.count '\n' := by
  refine ⟨lined_combined compiled, fun k u => lined_unit compiled, fun t q compiled' hshape =>
    ⟨?_, fun k u v hu hv => ?_⟩⟩
  · rw [(lined_combined compiled').count, (lined_combined compiled).count, hshape]
  · obtain ⟨b, hb, hsource⟩ := lined_unit compiled hu
    obtain ⟨c, hc, hsource'⟩ := lined_unit compiled' hv
    obtain ⟨hschemas, hstepped, hcases⟩ := Shape.mk.inj hshape
    have hcase : shapeOf c = shapeOf b := by
      have hk := congrArg (·[k]?) hcases
      simpa only [List.getElem?_map, hb, hc, Option.map_some, Option.some.injEq] using hk
    rw [hsource'.count, hsource.count, shape, shape, hschemas, hstepped, List.map_singleton, List.map_singleton, hcase]

/-- A specification whose texts would end every line that they get into. -/
def unruly : Specification where
  metadata := ⟨"demo\u2028throw", "1\n2", none⟩
  schemas := [("ver\ndict", .object [("pas\"sed\r", .boolean)])]
  agent := ⟨"m\u2029", "p\";\n//", .required, some 3⟩
  tools := [("look\x00up", ⟨"a\nb", [("q\x7f", .unknown "\n")], "ver\ndict", none⟩)]
  benchmarks := [⟨"warm\n", [⟨.user, "hi\u2028"⟩], ["look\x00up"], ⟨"Is it?\n", "ver\ndict", some 0.5, none⟩⟩]

/-- A specification of the same shape with other texts. -/
def plain : Specification where
  metadata := ⟨"demo", "1", none⟩
  schemas := [("verdict", .boolean)]
  agent := ⟨"m", "p", .auto, some 4⟩
  tools := [("lookup", ⟨"a", [], "verdict", none⟩)]
  benchmarks := [⟨"warm", [⟨.user, "hi"⟩], ["lookup"], ⟨"Is it?", "verdict", some 1, none⟩⟩]

theorem compile_lined_unruly : ∃ p q, compile unruly = .ok p ∧ compile plain = .ok q ∧
    shape plain plain.benchmarks = shape unruly unruly.benchmarks ∧ Lined unruly unruly.benchmarks p.combined ∧
    (shape unruly unruly.benchmarks).lineCount = 71 ∧
    q.combined.toList.count '\n' = p.combined.toList.count '\n' := by
  obtain ⟨p, hp⟩ : ∃ p, compile unruly = .ok p := ⟨_, rfl⟩
  obtain ⟨q, hq⟩ : ∃ q, compile plain = .ok q := ⟨_, rfl⟩
  have hshape : shape plain plain.benchmarks = shape unruly unruly.benchmarks := by decide +kernel
  obtain ⟨combined, -, others⟩ := compile_lined hp
  exact ⟨p, q, hp, hq, hshape, combined, by decide, (others plain q hq hshape).1⟩

end Program

end AgentTrial
