import AgentTrial.Proofs.Program.Agreement

/-!
# Digest — what the text behind a digest tells

The text that is hashed for a program is its unit sources with a null character between two of them.

* `digestText_inj`: no source has that character and none is empty, so the text tells the sources and their number.
* `tells_lines_prompt`: the lines of a program tell the system prompt.
* `source_withSystemPrompt_iff`: the units at one place are the same exactly if the prompts are.
-/

namespace AgentTrial.Program

variable {s t : Specification} {p q : SourceProgram}

/-! ## The sources -/

theorem Lined.ne_nil {cases : List Benchmark} {text : String} (h : Lined s cases text) : text.toList ≠ [] := by
  intro hnil
  have hcount := h.count
  rw [hnil, Shape.lineCount] at hcount
  simp only [List.count_nil] at hcount
  omega

theorem Lined.null_notMem {cases : List Benchmark} {text : String} (h : Lined s cases text) :
    '\x00' ∉ text.toList := by
  intro hnull
  rcases h.inLine _ hnull with hfeed | hline
  · exact absurd hfeed (by decide)
  · exact absurd hline (by decide)

/-- No source is empty or has a null character. -/
theorem separable_of_compile (compiled : compile s = .ok p) :
    ∀ w ∈ (p.units.map (·.source)).map String.toList, w ≠ [] ∧ '\x00' ∉ w := by
  intro w hw
  obtain ⟨source, hsource, rfl⟩ := List.mem_map.1 hw
  obtain ⟨u, hu, rfl⟩ := List.mem_map.1 hsource
  obtain ⟨k, hk⟩ := List.mem_iff_getElem?.1 hu
  obtain ⟨b, -, lined⟩ := lined_unit compiled hk
  exact ⟨lined.ne_nil, lined.null_notMem⟩

theorem toList_digestText (units : List CompiledUnit) :
    (digestText units).toList = ['\x00'].intercalate ((units.map (·.source)).map String.toList) := by
  have hnull : "\x00".toList = ['\x00'] := by decide
  rw [digestText, String.toList_intercalate, hnull]

/-- The hashed text tells the sources, element by element and in number. -/
theorem digestText_inj (hp : compile s = .ok p) (hq : compile t = .ok q) :
    digestText p.units = digestText q.units ↔ p.units.map (·.source) = q.units.map (·.source) := by
  have injective : Function.Injective (List.map String.toList) :=
    List.map_injective_iff.2 fun _ _ => String.toList_injective
  constructor
  · intro h
    have hlist := congrArg String.toList h
    rw [toList_digestText, toList_digestText] at hlist
    exact injective (Text.intercalate_inj (separable_of_compile hp) (separable_of_compile hq) hlist)
  · intro h
    rw [digestText, digestText, h]

/-! ## The system prompt -/

theorem caseBlock_withSystemPrompt (s : Specification) (prompt : String) (b : Benchmark) :
    caseBlock (s.withSystemPrompt prompt) b = caseBlock s b := rfl

/-- The prompt stands on a line of its own, and the others do not depend on it. -/
theorem lines_withSystemPrompt (s : Specification) (prompt : String) (bs : List (List String)) :
    lines (s.withSystemPrompt prompt) bs =
      (lines s bs).take 15 ++ ("    : " ++ Text.literal prompt ++ ";") :: (lines s bs).drop 16 := rfl

/-- The lines of a program tell the system prompt. -/
theorem tells_lines_prompt (s : Specification) (a b : String) (bs : List (List String)) :
    Tells unlines (a = b) (lines (s.withSystemPrompt a) bs) (lines (s.withSystemPrompt b) bs) := by
  have hprompt := (tells_literal a b).between "    : " ";"
  rw [lines_withSystemPrompt, lines_withSystemPrompt]
  exact (tells_append (.refl _) (tells_cons hprompt (.refl _))).congr (by simp)

/-- The units of a place with two prompts. -/
theorem source_withSystemPrompt_iff {a b : String} (hp : compile (s.withSystemPrompt a) = .ok p)
    (hq : compile (s.withSystemPrompt b) = .ok q) {k : Nat} {u v : CompiledUnit} (hu : p.units[k]? = some u)
    (hv : q.units[k]? = some v) : u.source = v.source ↔ a = b := by
  obtain ⟨c, block, hc, hblock, rfl⟩ := (unit_iff hp).1 hu
  obtain ⟨c', block', hc', hblock', rfl⟩ := (unit_iff hq).1 hv
  obtain rfl : c = c' := Option.some.inj (hc.symm.trans hc')
  rw [caseBlock_withSystemPrompt] at hblock hblock'
  obtain rfl : block = block' := Except.ok.inj (hblock.symm.trans hblock')
  rw [source_unitOf, source_unitOf]
  exact (tells_lines_prompt s a b [block]).iff_text_eq.symm

/-- With a case, the hashed text tells the prompt. -/
theorem digestText_withSystemPrompt_iff (hs : s.benchmarks ≠ []) {a b : String}
    (hp : compile (s.withSystemPrompt a) = .ok p) (hq : compile (s.withSystemPrompt b) = .ok q) :
    digestText p.units = digestText q.units ↔ a = b := by
  constructor
  · intro h
    have hsources := (digestText_inj hp hq).1 h
    have hpos : 0 < s.benchmarks.length := List.length_pos_of_ne_nil hs
    have hu : p.units[0]? = some _ := List.getElem?_eq_getElem ((length_units hp).symm ▸ hpos)
    have hv : q.units[0]? = some _ := List.getElem?_eq_getElem ((length_units hq).symm ▸ hpos)
    have hsource := congrArg (·[0]?) hsources
    simp only [List.getElem?_map, hu, hv, Option.map_some, Option.some.injEq] at hsource
    exact (source_withSystemPrompt_iff hp hq hu hv).1 hsource
  · rintro rfl
    rw [Except.ok.inj (hp.symm.trans hq)]

end AgentTrial.Program
