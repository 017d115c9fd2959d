import AgentTrial.Proofs.Document.Fields
import AgentTrial.Proofs.Spec.Property

/-!
# Codec — specifications, written and read

Every part of a specification is decoded from the value tree that it is written as, and so is the whole.  What can be
written that way is what can be read at all: tables with every name once, numbers within their bounds, and property
types that can be declared.

* `PropertyType.decodes`: a property type comes back from its declaration.
* `Specification.Formed`, `Specification.formed_of_decode`: what every specification has that was read.
* `Specification.decodes`: a specification comes back from any document that shows its value tree.
-/

namespace AgentTrial

open Datum (Decodes)

namespace Declaration

theorem fieldsJson_eq (fields : List (String × Declaration)) :
    fieldsJson fields = fields.map fun (k, d) => (k, d.toJson) := by
  induction fields with
  | nil => rfl
  | cons f fields ih =>
    obtain ⟨k, d⟩ := f
    rw [fieldsJson, ih]
    rfl

theorem propertiesJson_eq (properties : Option (List (String × Declaration))) :
    propertiesJson properties = Json.optional "properties" (properties.map (Table.toJson toJson)) := by
  cases properties with
  | none => rfl
  | some fields =>
    rw [propertiesJson, fieldsJson_eq]
    rfl

theorem levels_pos (d : Declaration) : 0 < d.toJson.levels := by
  cases d
  exact Nat.succ_pos _

/-- A declaration comes back if its properties do, a level further down. -/
theorem decodes_mk {levels : Nat} {kind : Option String} {properties : Option (List (String × Declaration))}
    (h : ∀ fields ∈ properties, (Table.keys fields).Nodup ∧
      ∀ e ∈ fields, Decodes (decodeWithin levels) e.2.toJson e.2) :
    Decodes (decodeWithin (levels + 1)) (toJson (mk kind properties)) (mk kind properties) := by
  have hkind := Fields.Restores.optional "type" Json.text kind fun s _ => ⟨nofun, Datum.decodes_text s⟩
  have hproperties := Fields.Restores.optional "properties" (Table.toJson toJson) properties
    fun fields hf => ⟨nofun, Datum.decodes_table (h fields hf).1 (h fields hf).2⟩
  rw [toJson, propertiesJson_eq]
  exact ((hkind.map mk).seq hproperties (by simp)).decodes

end Declaration

namespace PropertyType

/-! ## Property types -/

theorem keys_toFields (fields : List (String × PropertyType)) : Table.keys (toFields fields) = Table.keys fields := by
  induction fields with
  | nil => rfl
  | cons f fields ih => exact congrArg (f.1 :: ·) ih

mutual

theorem decodes_declaration : ∀ {p : PropertyType} {levels : Nat}, p.Distinct → p.toDeclaration.toJson.levels ≤ levels →
    Decodes (Declaration.decodeWithin levels) p.toDeclaration.toJson p.toDeclaration
  | p, 0, _, hlevels => by
    exact absurd (Declaration.levels_pos _) (Nat.not_lt.2 hlevels)
  | object fields, levels + 1, distinct, hlevels => by
    rw [toDeclaration] at hlevels ⊢
    refine Declaration.decodes_mk fun fields' hfields => ?_
    obtain rfl := Option.some.inj hfields
    rw [keys_toFields]
    refine ⟨distinct.1, decodes_declarations distinct.2 ?_⟩
    simp only [Declaration.toJson, Declaration.propertiesJson, Json.optional, Option.map_some, List.singleton_append,
      Json.levels, Json.levelsFields] at hlevels
    omega
  | string, levels + 1, _, _ => Declaration.decodes_mk nofun
  | number, levels + 1, _, _ => Declaration.decodes_mk nofun
  | boolean, levels + 1, _, _ => Declaration.decodes_mk nofun
  | unknown name, levels + 1, _, _ => Declaration.decodes_mk nofun

theorem decodes_declarations : ∀ {fields : List (String × PropertyType)} {levels : Nat}, DistinctFields fields →
    Json.levelsFields (Declaration.fieldsJson (toFields fields)) ≤ levels → ∀ e ∈ toFields fields,
    Decodes (Declaration.decodeWithin levels) e.2.toJson e.2
  | [], _, _, _, e, he => nomatch he
  | (k, p) :: fields, levels, distinct, hlevels, e, he => by
    rw [toFields] at he hlevels
    rw [Declaration.fieldsJson, Json.levelsFields, Nat.max_le] at hlevels
    rcases List.mem_cons.1 he with rfl | he
    · exact decodes_declaration distinct.1 hlevels.1
    · exact decodes_declarations distinct.2 hlevels.2 e he

end

/-- A property type that can be declared is decoded from its value tree. -/
theorem decodes {p : PropertyType} (distinct : p.Distinct) (declarable : p.Declarable) : Decodes decode p.toJson p := by
  intro d hd
  have hdeclaration := decodes_declaration distinct (Nat.le_of_eq hd.height_eq.symm) d hd
  rw [decode, Declaration.decode, hdeclaration]
  exact congrArg Except.ok (ofDeclaration_toDeclaration declarable)

/-- A table of property types. -/
theorem decodes_table {t : Table PropertyType} (nodup : t.keys.Nodup) (distinct : DistinctFields t)
    (declarable : DeclarableFields t) : Decodes (Datum.asTable decode) (Table.toJson toJson t) t :=
  Datum.decodes_table nodup fun e he =>
    decodes (distinctFields_iff.1 distinct e he) (declarableFields_iff.1 declarable e he)

/-! ## What is read from a declaration -/

theorem keys_ofFields (fields : List (String × Declaration)) : Table.keys (ofFields fields) = Table.keys fields := by
  induction fields with
  | nil => rfl
  | cons f fields ih => exact congrArg (f.1 :: ·) ih

theorem distinct_ofFields {fields : List (String × Declaration)} (nodup : (Table.keys fields).Nodup)
    (h : ∀ e ∈ fields, (ofDeclaration e.2).Distinct) : (object (ofFields fields)).Distinct := by
  refine ⟨by rwa [keys_ofFields], ?_⟩
  clear nodup
  induction fields with
  | nil => trivial
  | cons f fields ih => exact ⟨h f List.mem_cons_self, ih fun e he => h e (List.mem_cons_of_mem _ he)⟩

theorem distinct_ofDeclaration {kind : Option String} {properties : Option (List (String × Declaration))}
    (h : ∀ fields ∈ properties, (Table.keys fields).Nodup ∧ ∀ e ∈ fields, (ofDeclaration e.2).Distinct) :
    (ofDeclaration (.mk kind properties)).Distinct := by
  have hobject : (object (ofOptional properties)).Distinct := by
    cases properties with
    | none => exact ⟨List.nodup_nil, trivial⟩
    | some fields => exact distinct_ofFields (h fields rfl).1 (h fields rfl).2
  rw [ofDeclaration.eq_def]
  dsimp only
  split_ifs
  · trivial
  · trivial
  · trivial
  · exact hobject
  · split
    next => trivial
    next fields => exact hobject
    next => trivial

theorem distinct_of_decodeWithin {levels : Nat} {d : Datum} {declaration : Declaration}
    (h : Declaration.decodeWithin levels d = .ok declaration) : (ofDeclaration declaration).Distinct := by
  induction levels generalizing d declaration with
  | zero => cases h
  | succ levels ih =>
    have hfields : Fields.Ensures (Declaration.mk <$> Fields.optional "type" Datum.asText <*>
        Fields.optional "properties" (Datum.asTable (Declaration.decodeWithin levels)))
        fun declaration => (ofDeclaration declaration).Distinct := by
      refine .seq (.map ?_ (.trivial _)) (.optional fun d fields hd => Datum.of_asTable hd)
      intro kind _ properties hproperties
      refine distinct_ofDeclaration fun fields hf => ⟨(hproperties fields hf).1, fun e he => ?_⟩
      obtain ⟨d', hd'⟩ := (hproperties fields hf).2 e he
      exact ih hd'
    exact hfields.decode h

/-- A property type that was read can be declared, and has every name once. -/
theorem formed_of_decode {d : Datum} {p : PropertyType} (h : decode d = .ok p) : p.Distinct ∧ p.Declarable := by
  obtain ⟨declaration, hdeclaration, rfl⟩ := of_map_ok h
  exact ⟨distinct_of_decodeWithin hdeclaration, declarable_ofDeclaration declaration⟩

theorem formed_of_asTable {d : Datum} {t : Table PropertyType} (h : Datum.asTable decode d = .ok t) :
    (object t).Distinct ∧ DeclarableFields t := by
  obtain ⟨nodup, values⟩ := Datum.of_asTable h
  have formed (e : String × PropertyType) (he : e ∈ t) : e.2.Distinct ∧ e.2.Declarable := by
    obtain ⟨d', hd'⟩ := values e he
    exact formed_of_decode hd'
  exact ⟨⟨nodup, distinctFields_iff.2 fun e he => (formed e he).1⟩,
    declarableFields_iff.2 fun e he => (formed e he).2⟩

end PropertyType

/-! ## The parts of a specification -/

section Parts

open Fields

theorem ToolChoice.named_name (c : ToolChoice) : Datum.named names c.name = .ok c := by
  cases c <;> decide

theorem Role.named_name (r : Role) : Datum.named names r.name = .ok r := by
  cases r <;> decide

theorem restores_text (key : String) (s : String) :
    Restores (required key Datum.asText) [key] [(key, .text s)] s :=
  .required key (Datum.decodes_text s)

theorem restores_textOption (key : String) (o : Option String) :
    Restores (optional key Datum.asText) [key] (Json.optional key (o.map .text)) o :=
  .optional key Json.text o fun s _ => ⟨nofun, Datum.decodes_text s⟩

theorem restores_natOption (key : String) {bound : Nat} {o : Option Nat} (h : ∀ n ∈ o, n ≤ bound) :
    Restores (optional key (Datum.asNat bound)) [key] (Json.optional key (o.map Json.nat)) o :=
  .optional key Json.nat o fun n hn => ⟨nofun, Datum.decodes_nat (h n hn)⟩

theorem restores_floatOption (key : String) (o : Option Float) :
    Restores (optional key Datum.asFloat) [key] (Json.optional key (o.map .float)) o :=
  .optional key Json.float o fun x _ => ⟨nofun, Datum.decodes_float x⟩

theorem Metadata.decodes (m : Metadata) : Decodes fields.decode m.toJson m :=
  ((((restores_text "name" m.name).map mk).seq (.defaulted "version" (Datum.decodes_text m.version)) (by simp)).seq
    (restores_textOption "description" m.description) (by simp)).decodes

theorem Agent.decodes {a : Agent} (maxSteps : ∀ n ∈ a.maxSteps, n ≤ maxNat32) : Decodes fields.decode a.toJson a :=
  (((((restores_text "model" a.model).map mk).seq (restores_text "systemPrompt" a.systemPrompt) (by simp)).seq
    (.defaulted "toolChoice" (Datum.decodes_variant a.toolChoice.named_name)) (by simp)).seq
    (restores_natOption "maxSteps" maxSteps) (by simp)).decodes

theorem Generator.decodes (g : Generator) : Decodes fields.decode g.toJson g :=
  (((restores_text "prompt" g.prompt).map mk).seq (restores_textOption "model" g.model) (by simp)).decodes

theorem Tool.decodes {t : Tool} (distinct : (PropertyType.object t.input).Distinct)
    (declarable : PropertyType.DeclarableFields t.input) : Decodes fields.decode t.toJson t :=
  (((((restores_text "description" t.description).map mk).seq
    (.defaulted "input" (PropertyType.decodes_table distinct.1 distinct.2 declarable)) (by simp)).seq
    (restores_text "output" t.output) (by simp)).seq (restores_textOption "generator" t.generator) (by simp)).decodes

theorem Message.decodes (m : Message) : Decodes fields.decode m.toJson m :=
  (((Restores.required "role" (Datum.decodes_variant m.role.named_name)).map mk).seq
    (restores_text "content" m.content) (by simp)).decodes

theorem Judge.decodes (j : Judge) : Decodes fields.decode j.toJson j :=
  (((((restores_text "prompt" j.prompt).map mk).seq (restores_text "schema" j.schema) (by simp)).seq
    (restores_floatOption "minScore" j.minScore) (by simp)).seq (restores_textOption "model" j.model) (by simp)).decodes

theorem decodes_texts (l : List String) : Decodes (Datum.asList Datum.asText) (Json.texts l) l :=
  Datum.decodes_list fun s _ => Datum.decodes_text s

theorem Benchmark.decodes (b : Benchmark) : Decodes fields.decode b.toJson b :=
  (((((restores_text "name" b.name).map mk).seq
    (.required "messages" (Datum.decodes_list fun m _ => m.decodes)) (by simp)).seq
    (.defaulted "tools" (decodes_texts b.tools)) (by simp)).seq (.required "judge" b.judge.decodes) (by simp)).decodes

theorem OptimizerBlock.decodes {o : OptimizerBlock} (iterations : ∀ n ∈ o.iterations, n ≤ Json.maxNat64) :
    Decodes fields.decode o.toJson o :=
  ((((((restores_textOption "model" o.model).map mk).seq (restores_natOption "iterations" iterations) (by simp)).seq
    (restores_textOption "strategy" o.strategy) (by simp)).seq (restores_textOption "feedbackPrompt" o.feedbackPrompt)
    (by simp)).seq (restores_floatOption "minPassRate" o.minPassRate) (by simp)).decodes

theorem Agent.maxSteps_of_decode {d : Datum} {a : Agent} (h : fields.decode d = .ok a) :
    ∀ n ∈ a.maxSteps, n ≤ maxNat32 := by
  have hfields : Ensures fields fun a => ∀ n ∈ a.maxSteps, n ≤ maxNat32 := by
    refine .seq (.seq (.seq (.map ?_ (.trivial _)) (.trivial _)) (.trivial _)) (.optional fun _ _ => Datum.le_of_asNat)
    exact fun _ _ _ _ _ _ _ h => h
  exact hfields.decode h

theorem Tool.formed_of_decode {d : Datum} {t : Tool} (h : fields.decode d = .ok t) :
    (PropertyType.object t.input).Distinct ∧ PropertyType.DeclarableFields t.input := by
  have hfields : Ensures fields fun t =>
      (PropertyType.object t.input).Distinct ∧ PropertyType.DeclarableFields t.input := by
    refine .seq (.seq (.seq (.map ?_ (.trivial _))
      (.defaulted (fun _ _ => PropertyType.formed_of_asTable) ⟨⟨List.nodup_nil, True.intro⟩, True.intro⟩)) (.trivial _))
      (.trivial _)
    exact fun _ _ _ h _ _ _ _ => h
  exact hfields.decode h

theorem OptimizerBlock.iterations_of_decode {d : Datum} {o : OptimizerBlock} (h : fields.decode d = .ok o) :
    ∀ n ∈ o.iterations, n ≤ Json.maxNat64 := by
  have hfields : Ensures fields fun o => ∀ n ∈ o.iterations, n ≤ Json.maxNat64 := by
    refine .seq (.seq (.seq (.seq (.map ?_ (.trivial _)) (.optional fun _ _ => Datum.le_of_asNat)) (.trivial _))
      (.trivial _)) (.trivial _)
    exact fun _ _ _ h _ _ _ _ _ _ => h
  exact hfields.decode h

end Parts

namespace Specification

/-- A specification that can be read: every name of a table once, property types that can be declared, and numbers
within their bounds. -/
structure Formed (s : Specification) : Prop where
  distinct : s.Distinct
  schemaTypes : PropertyType.DeclarableFields s.schemas
  inputTypes : ∀ e ∈ s.tools, PropertyType.DeclarableFields e.2.input
  maxSteps : ∀ n ∈ s.agent.maxSteps, n ≤ maxNat32
  iterations : ∀ o ∈ s.optimizer, ∀ n ∈ o.iterations, n ≤ Json.maxNat64

/-- An empty table of generators is not written, and none is what is read then. -/
theorem restores_generators {t : Table Generator} (nodup : t.keys.Nodup) :
    Fields.Restores (Fields.defaulted "generators" (Datum.asTable Generator.fields.decode) []) ["generators"]
      (if t.isEmpty then [] else [("generators", Table.toJson Generator.toJson t)]) t := by
  split_ifs with hempty
  · obtain rfl := List.isEmpty_iff.1 hempty
    exact .absent
  · exact .defaulted "generators" (Datum.decodes_table nodup fun e _ => e.2.decodes)

/-- A specification comes back from every document that shows its value tree. -/
theorem decodes {s : Specification} (formed : s.Formed) : Decodes decode s.toJson s := by
  have hschemas := PropertyType.decodes_table formed.distinct.schemas
    (PropertyType.distinctFields_iff.2 formed.distinct.schemaTypes) formed.schemaTypes
  have htools := Datum.decodes_table formed.distinct.tools fun e he =>
    Tool.decodes (formed.distinct.inputs e he) (formed.inputTypes e he)
  have hbenchmarks := Datum.decodes_list fun (b : Benchmark) (_ : b ∈ s.benchmarks) => b.decodes
  have hoptimizer := Fields.Restores.optional "optimizer" OptimizerBlock.toJson s.optimizer fun o ho =>
    ⟨nofun, OptimizerBlock.decodes (formed.iterations o ho)⟩
  have hfields : Fields.Restores fields _ _ s :=
    (((((((Fields.Restores.required "metadata" s.metadata.decodes).map mk).seq
      (.defaulted "schemas" hschemas) (by simp)).seq (restores_generators formed.distinct.generators) (by simp)).seq
      (.required "agent" (Agent.decodes formed.maxSteps)) (by simp)).seq (.defaulted "tools" htools) (by simp)).seq
      (.defaulted "benchmarks" hbenchmarks) (by simp)).seq hoptimizer (by simp)
  change Decodes fields.decode s.toJson s
  simpa only [toJson, List.append_assoc, List.cons_append, List.nil_append] using hfields.decodes

/-! ## What is read -/

theorem formed_fields : Fields.Ensures fields Formed := by
  refine .seq (.seq (.seq (.seq (.seq (.seq (.map ?_ (.trivial _))
    (.defaulted (fun _ _ => PropertyType.formed_of_asTable) ⟨⟨List.nodup_nil, trivial⟩, trivial⟩))
    (.defaulted (fun _ _ => Datum.of_asTable) ⟨List.nodup_nil, nofun⟩))
    (.required fun _ _ => Agent.maxSteps_of_decode))
    (.defaulted (fun _ _ => Datum.of_asTable) ⟨List.nodup_nil, nofun⟩))
    (.trivial _)) (.optional fun _ _ => OptimizerBlock.iterations_of_decode)
  intro metadata _ schemas hschemas generators hgenerators agent hagent tools htools benchmarks _ optimizer hoptimizer
  have formed (e : String × Tool) (he : e ∈ tools) :
      (PropertyType.object e.2.input).Distinct ∧ PropertyType.DeclarableFields e.2.input := by
    obtain ⟨d, hd⟩ := htools.2 e he
    exact Tool.formed_of_decode hd
  have distinct : Distinct ⟨metadata, schemas, generators, agent, tools, benchmarks, optimizer⟩ :=
    ⟨hschemas.1.1, PropertyType.distinctFields_iff.1 hschemas.1.2, hgenerators.1, htools.1, fun e he => (formed e he).1⟩
  exact ⟨distinct, hschemas.2, fun e he => (formed e he).2, hagent, hoptimizer⟩

/-- Every specification that was read can be read again. -/
theorem formed_of_decode {d : Datum} {s : Specification} (h : decode d = .ok s) : s.Formed := formed_fields.decode h

end Specification

end AgentTrial
