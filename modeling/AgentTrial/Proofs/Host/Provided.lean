import AgentTrial.Host.Vitest
import AgentTrial.Proofs.Json.Sorted

/-!
# Provided — provided values as a text

The text of provided values has their names in order, at every level, so it is known by what is looked up in it.  Reading
it finds for every name what was provided, and so the prompt.

* `ProvidedValues.legible_ofCalls`: values that are named one after another make a table of sorted trees.
* `ProvidedValues.ofText_render`: the text is read as the values in order.
* `ProvidedValues.render_eq_iff`: texts are equal exactly if the same values have the same names.
* `ProvidedValues.render_faithful`: both, with the environment that a test runner gets.
-/

namespace AgentTrial

/-- A record of trees is decoded as the table of its fields, with every record below them sorted. -/
theorem Datum.asTable_ofJson (vs : List (String × Json)) :
    (Datum.ofJson (.record vs)).asTable Datum.asJson = .ok (Table.ofPairs (Json.canonicalFields vs)) := by
  have hpairs : ((Datum.ofFields vs).mapM fun e => return (← e.1.asText, ← e.2.asJson)) =
      (.ok (Json.canonicalFields vs) : Except Cause (Table Json)) := by
    induction vs with
    | nil => rfl
    | cons f vs ih =>
      rw [Datum.ofFields, List.mapM_cons, ih]
      dsimp only
      rw [Json.asJson_ofJson]
      rfl
  rw [Datum.ofJson, asTable, asFields]
  change (List.mapM (m := Except Cause) _ _ >>= _) = _
  rw [hpairs]
  rfl

namespace ProvidedValues

variable {p q : ProvidedValues} {calls calls' : List (String × Json)}

/-- The values after naming them one after another. -/
def ofCalls (calls : List (String × Json)) : ProvidedValues := calls.foldl (fun p c => p.set c.1 c.2) empty

/-- A value that can be read inside the record of all values: whole numbers, and not nested too deep. -/
structure Readable (v : Json) : Prop where
  whole : v.Whole
  deep : v.depth < Json.maxDepth

theorem readable_text (s : String) : Readable (.text s) := ⟨trivial, Nat.zero_lt_succ _⟩

/-- Values with every name once, whose records are sorted, and that can be read. -/
structure Legible (p : ProvidedValues) : Prop where
  nodup : p.values.keys.Nodup
  canonical : ∀ e ∈ p.values, e.2.canonical = e.2
  readable : ∀ e ∈ p.values, Readable e.2

theorem values_ofCalls (calls : List (String × Json)) :
    (ofCalls calls).values = Table.ofPairs (calls.map fun c => (c.1, c.2.canonical)) := by
  induction calls using List.reverseRecOn with
  | nil => rfl
  | append_singleton calls c ih =>
    rw [ofCalls, List.foldl_append, ← ofCalls, List.map_append, List.map_singleton, Table.ofPairs_append_singleton, ← ih]
    rfl

theorem legible_ofCalls (readable : ∀ c ∈ calls, Readable c.2) : (ofCalls calls).Legible := by
  have hmem : ∀ e ∈ (ofCalls calls).values, ∃ c ∈ calls, (c.1, c.2.canonical) = e := by
    intro e he
    rw [values_ofCalls] at he
    exact List.mem_map.1 (Table.mem_of_mem_ofPairs he)
  refine ⟨values_ofCalls calls ▸ Table.nodup_ofPairs _, fun e he => ?_, fun e he => ?_⟩
  · obtain ⟨c, -, rfl⟩ := hmem e he
    exact Json.canonical_canonical c.2
  · obtain ⟨c, hc, rfl⟩ := hmem e he
    exact ⟨(readable c hc).whole.canonical, (Json.depth_canonical_le c.2).trans_lt (readable c hc).deep⟩

/-! ## Reading the text -/

/-- The text is read as the values in the order of their names. -/
theorem ofText_render (h : p.Legible) : ofText p.render = .ok ⟨Json.sortFields p.values⟩ := by
  have hwhole : (Json.record (Json.sortFields p.values)).Whole :=
    (Json.wholeFields_iff.2 fun e he => (h.readable e he).whole).sortFields
  have hdeep : (Json.record (Json.sortFields p.values)).depth ≤ Json.maxDepth :=
    Nat.succ_le_succ (Json.depthFields_le_iff.2 fun e he =>
      Nat.le_of_lt_succ (h.readable e (Json.mem_of_mem_sortFields he)).deep)
  have hfields : Json.canonicalFields (Json.sortFields p.values) = Json.sortFields p.values := by
    have hsame : ∀ e ∈ Json.sortFields p.values, (e.1, e.2.canonical) = id e := fun e he =>
      congrArg (e.1, ·) (h.canonical e (Json.mem_of_mem_sortFields he))
    rw [Json.canonicalFields_eq_map, List.map_congr_left hsame, List.map_id]
  rw [ofText, render, Json.ofText_compact decode hwhole.numbersKept hdeep, decode, Datum.asTable_ofJson, hfields,
    Table.ofPairs_of_nodup (Json.ascending_sortFields _).nodup]
  rfl

theorem get?_sortFields (h : p.Legible) (key : String) : get? ⟨Json.sortFields p.values⟩ key = p.get? key := by
  rw [get?, ← Json.lookup_eq_get?, Json.lookup_sortFields h.nodup, get?]

/-- What is read answers as the values do. -/
theorem exists_ofText_render (h : p.Legible) : ∃ back, ofText p.render = .ok back ∧
    (∀ key, back.get? key = p.get? key) ∧ back.systemPrompt? = p.systemPrompt? := by
  refine ⟨_, ofText_render h, get?_sortFields h, ?_⟩
  rw [systemPrompt?, get?_sortFields h, systemPrompt?]

/-- Texts of values are equal exactly if the same values have the same names. -/
theorem render_eq_iff (hp : p.Legible) (hq : q.Legible) : p.render = q.render ↔ ∀ key, p.get? key = q.get? key := by
  constructor
  · intro h key
    have hread := ofText_render hp
    rw [h, ofText_render hq] at hread
    rw [← get?_sortFields hp, ← Except.ok.inj hread, get?_sortFields hq]
  · intro h
    have hlookup : ∀ key, Json.lookup key (Json.sortFields p.values) = Json.lookup key (Json.sortFields q.values) := by
      intro key
      rw [Json.lookup_sortFields hp.nodup, Json.lookup_sortFields hq.nodup]
      exact h key
    rw [render, render, Json.eq_of_lookup (Json.ascending_sortFields _) (Json.ascending_sortFields _) hlookup]

theorem legible_ofSpec (s : Specification) : (ofSpec s).Legible := by
  have hcalls : ∀ c ∈ [(systemPromptKey, Json.text s.agent.systemPrompt), (modelKey, Json.text s.agent.model)],
      Readable c.2 := by
    simp [readable_text]
  exact legible_ofCalls hcalls

/-- Values that are named one after another have one text, whatever the order and the replacements, and other values
have another.  Reading the text finds every value and the prompt.  So a test runner gets the prompt of a specification,
whatever text it is. -/
theorem render_faithful (calls calls' : List (String × Json)) (readable : ∀ c ∈ calls, Readable c.2)
    (readable' : ∀ c ∈ calls', Readable c.2) :
    ((ofCalls calls).render = (ofCalls calls').render ↔ ∀ key, (ofCalls calls).get? key = (ofCalls calls').get? key) ∧
    (∃ back, ofText (ofCalls calls).render = .ok back ∧ (∀ key, back.get? key = (ofCalls calls).get? key) ∧
      back.systemPrompt? = (ofCalls calls).systemPrompt?) ∧
    ∀ (c : HostConfig) (id : String) (units : List CompiledUnit) (s : Specification), ∃ text back,
      (Vitest.request c ⟨id, units, ofSpec s⟩).environment = [(Program.providedVariable, text)] ∧
        ofText text = .ok back ∧ back.systemPrompt? = some s.agent.systemPrompt := by
  refine ⟨render_eq_iff (legible_ofCalls readable) (legible_ofCalls readable'),
    exists_ofText_render (legible_ofCalls readable), fun c id units s => ?_⟩
  obtain ⟨back, hread, -, hprompt⟩ := exists_ofText_render (legible_ofSpec s)
  exact ⟨_, back, rfl, hread, hprompt⟩

/-- A prompt with a quote and a line break, set twice, beside a negative number and a record with its fields the other
way round. -/
theorem render_faithful_reordered :
    let calls := [("systemPrompt", Json.text "first"), ("seed", .int (-5)),
      ("case", .record [("b", .null), ("a", .list [.bool true])]), ("systemPrompt", .text "say \"hi\"\n")]
    let calls' := [("case", Json.record [("a", .list [.bool true]), ("b", .null)]),
      ("systemPrompt", .text "say \"hi\"\n"), ("seed", .int (-5))]
    (ofCalls calls).render = (ofCalls calls').render ∧
      ∃ back, ofText (ofCalls calls).render = .ok back ∧ back.systemPrompt? = some "say \"hi\"\n" := by
  intro calls calls'
  have hseed : Readable (.int (-5)) := ⟨⟨by decide, by decide⟩, by decide⟩
  have hrecord : Readable (.record [("b", .null), ("a", .list [.bool true])]) :=
    ⟨⟨trivial, ⟨trivial, trivial⟩, trivial⟩, by decide⟩
  have hrecord' : Readable (.record [("a", .list [.bool true]), ("b", .null)]) :=
    ⟨⟨⟨trivial, trivial⟩, trivial, trivial⟩, by decide⟩
  have readable : ∀ c ∈ calls, Readable c.2 := by
    simp [calls, readable_text, hseed, hrecord]
  have readable' : ∀ c ∈ calls', Readable c.2 := by
    simp [calls', readable_text, hseed, hrecord']
  obtain ⟨hsame, ⟨back, hread, -, hprompt⟩, -⟩ := render_faithful calls calls' readable readable'
  refine ⟨hsame.2 fun key => ?_, back, hread, hprompt⟩
  change Table.get? key [("systemPrompt", _), ("seed", _), ("case", Json.record [("a", _), ("b", _)])] =
    Table.get? key [("case", Json.record [("a", _), ("b", _)]), ("systemPrompt", _), ("seed", _)]
  simp only [Table.get?]
  by_cases h₁ : "systemPrompt" = key
  · subst h₁
    rfl
  · by_cases h₂ : "seed" = key
    · subst h₂
      rfl
    · rw [if_neg h₁, if_neg h₂, if_neg h₁, if_neg h₂]

end ProvidedValues

end AgentTrial
