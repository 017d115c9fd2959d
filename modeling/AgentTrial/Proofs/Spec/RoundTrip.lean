import AgentTrial.Proofs.Json.Printer
import AgentTrial.Proofs.Spec.Codec
import AgentTrial.Proofs.Store.Write
import AgentTrial.Spec.File

/-!
# RoundTrip — specifications in documents and files

A specification that can be read comes back from its own document, in each format and through one format and the other,
and from a file that it was saved to.  What is asked of a format is that the document of a value tree shows that tree.

* `DocumentFormat.Keeps`, `Specification.KeptIn`: what is asked of a format, for a value tree and for a specification.
* `Specification.numbersKept_toJson`: the numbers that this leaves to ask about are the doubles.
* `Specification.load_of_save`, `Specification.restored`: the way through files, and through documents and files.
-/

namespace AgentTrial

/-- Reading, character by character. -/
theorem Yaml.read_ofList (cs : List Char) : read (.ofList cs) = do
    let ts ← tokens cs
    let (d, _) ← (Parser.document (4 * ts.length + 8)).run { tokens := ts }
    return d := by
  rw [read, String.toList_ofList]

namespace DocumentFormat

/-- A format keeps a value tree.  For block documents: what is read of the document shows the tree.  For value trees:
the numbers are printed as texts of themselves, and the containers are not nested too deep. -/
def Keeps : DocumentFormat → Json → Prop
  | yaml, v => ∃ d, Yaml.read (Yaml.render v) = some d ∧ d.Shows v
  | json, v => v.NumbersKept ∧ v.depth ≤ Json.maxDepth

section Decode

variable {α : Type} {decode : Datum → Except Cause α} {f : DocumentFormat} {v : Json} {a : α}

/-- The document of a value tree is decoded as the tree. -/
theorem decode_render (keeps : f.Keeps v) (h : Datum.Decodes decode v a) : f.decode decode (f.render v) = .ok a := by
  cases f with
  | yaml =>
    obtain ⟨d, hread, hshows⟩ := keeps
    change Yaml.ofText decode (Yaml.render v) = _
    rw [Yaml.ofText, hread]
    exact h d hshows
  | json =>
    change Json.ofText decode (v.pretty ++ "\n") = _
    rw [Json.ofText_pretty decode keeps.1 keeps.2]
    exact h _ (Datum.shows_ofJson v)

/-- What is decoded from a text is decoded from a document. -/
theorem of_decode {text : String} (h : f.decode decode text = .ok a) : ∃ d, decode d = .ok a := by
  cases f with
  | yaml =>
    change Yaml.ofText decode text = _ at h
    unfold Yaml.ofText at h
    split at h
    · exact ⟨_, h⟩
    · cases h
  | json =>
    change Json.ofText decode text = _ at h
    unfold Json.ofText at h
    split at h
    · split at h <;> cases h
    · obtain ⟨b, hb, h⟩ := of_bind_ok h
      split_ifs at h
      exact ⟨_, hb.trans h⟩

end Decode

end DocumentFormat

/-! ## The numbers of a specification -/

section Numbers

open Json (NumbersKept NumbersKeptFields)

theorem Table.numbersKept_toJson {α : Type} {encode : α → Json} {t : Table α}
    (h : ∀ e ∈ t, (encode e.2).NumbersKept) : (t.toJson encode).NumbersKept := by
  change NumbersKeptFields (t.map fun e => (e.1, encode e.2))
  induction t with
  | nil => trivial
  | cons e t ih => exact ⟨h e List.mem_cons_self, ih fun e he => h e (List.mem_cons_of_mem _ he)⟩

mutual

theorem PropertyType.numbersKept_toJson : ∀ p : PropertyType, p.toJson.NumbersKept
  | .string | .number | .boolean => by simp [toJson, toDeclaration, Declaration.toJson, Declaration.propertiesJson]
  | .unknown name => by
    rw [toJson, toDeclaration]
    split_ifs <;> simp [Declaration.toJson, Declaration.propertiesJson]
  | .object fields => by
    simp [toJson, toDeclaration, Declaration.toJson, Declaration.propertiesJson, numbersKept_fieldsJson fields]

theorem PropertyType.numbersKept_fieldsJson : ∀ fields : List (String × PropertyType),
    NumbersKeptFields (Declaration.fieldsJson (toFields fields))
  | [] => trivial
  | (_, p) :: fields => ⟨numbersKept_toJson p, numbersKept_fieldsJson fields⟩

end

/-- The doubles of a specification. -/
def Specification.doubles (s : Specification) : List Float :=
  s.benchmarks.filterMap (·.judge.minScore) ++ (s.optimizer.bind (·.minPassRate)).toList

theorem Agent.numbersKept_toJson {a : Agent} (maxSteps : ∀ n ∈ a.maxSteps, n ≤ maxNat32) : a.toJson.NumbersKept := by
  have hsteps : ∀ n ∈ a.maxSteps, (Json.nat n).NumbersKept := fun n hn =>
    Json.written_nat ((maxSteps n hn).trans (by decide))
  simpa [toJson] using hsteps

theorem Tool.numbersKept_toJson (t : Tool) : t.toJson.NumbersKept := by
  have hinput : (t.input.toJson PropertyType.toJson).NumbersKept :=
    Table.numbersKept_toJson fun e _ => e.2.numbersKept_toJson
  simp [toJson, hinput]

theorem Benchmark.numbersKept_toJson {b : Benchmark}
    (minScore : ∀ x ∈ b.judge.minScore, (Json.float x).NumbersKept) : b.toJson.NumbersKept := by
  simpa [toJson, Message.toJson, Judge.toJson, Json.texts] using minScore

theorem OptimizerBlock.numbersKept_toJson {o : OptimizerBlock} (iterations : ∀ n ∈ o.iterations, n ≤ Json.maxNat64)
    (minPassRate : ∀ x ∈ o.minPassRate, (Json.float x).NumbersKept) : o.toJson.NumbersKept := by
  have hiterations : ∀ n ∈ o.iterations, (Json.nat n).NumbersKept := fun n hn => Json.written_nat (iterations n hn)
  simpa [toJson] using ⟨hiterations, minPassRate⟩

/-- Of the numbers of a specification it is the doubles alone that have to be asked. -/
theorem Specification.numbersKept_toJson {s : Specification} (formed : s.Formed)
    (doubles : ∀ x ∈ s.doubles, (Json.float x).NumbersKept) : s.toJson.NumbersKept := by
  have hschemas : (s.schemas.toJson PropertyType.toJson).NumbersKept :=
    Table.numbersKept_toJson fun e _ => e.2.numbersKept_toJson
  have hgenerators : (s.generators.toJson Generator.toJson).NumbersKept :=
    Table.numbersKept_toJson fun e _ => by simp [Generator.toJson]
  have htools : (s.tools.toJson Tool.toJson).NumbersKept := Table.numbersKept_toJson fun e _ => e.2.numbersKept_toJson
  have hbenchmarks : ∀ b ∈ s.benchmarks, b.toJson.NumbersKept := fun b hb =>
    b.numbersKept_toJson fun x hx => doubles x (List.mem_append_left _ (List.mem_filterMap.2 ⟨b, hb, hx⟩))
  have hoptimizer : ∀ o ∈ s.optimizer, o.toJson.NumbersKept := fun o ho =>
    OptimizerBlock.numbersKept_toJson (formed.iterations o ho) fun x hx =>
      doubles x (List.mem_append_right _ (Option.mem_toList.2 (Option.mem_bind_iff.2 ⟨o, ho, hx⟩)))
  have hagent := Agent.numbersKept_toJson formed.maxSteps
  rw [toJson]
  split_ifs <;> simp +contextual [Metadata.toJson, hschemas, hgenerators, hagent, htools, hbenchmarks, hoptimizer]

end Numbers

namespace Specification

variable {s : Specification} {f : DocumentFormat}

theorem ofText_render (formed : s.Formed) (keeps : f.Keeps s.toJson) : ofText f (s.render f) = .ok s :=
  DocumentFormat.decode_render keeps (decodes formed)

theorem ofValidText_render (formed : s.Formed) (valid : s.problems = []) (keeps : f.Keeps s.toJson) :
    ofValidText f (s.render f) = .ok s := by
  rw [ofValidText, ofText_render formed keeps]
  dsimp only
  rw [validate_eq_ok_iff.2 valid]

section File

variable {path : String} {store store' : Store}

theorem of_save (saved : save path s store = .ok store') :
    store.writeDeep [] path (s.render (.ofPath path)).toUTF8 = .ok store' := by
  unfold save at saved
  split at saved
  · cases saved
  · cases saved
    assumption

/-- What was saved to a file is loaded from it. -/
theorem load_of_save (formed : s.Formed) (valid : s.problems = []) (keeps : (DocumentFormat.ofPath path).Keeps s.toJson)
    (saved : save path s store = .ok store') (file : store'.hasFile [] path = true) : load store' path = .ok s := by
  rw [load, Store.readText_of_writeDeep (of_save saved) (Store.hasDevice_of_hasFile file)]
  exact ofValidText_render formed valid keeps

end File

/-- What is asked of a format for a specification.  For block documents: that the value tree is shown.  For value
trees: that the doubles are printed as texts of themselves, and that the containers are not nested too deep. -/
def KeptIn (s : Specification) : DocumentFormat → Prop
  | .yaml => DocumentFormat.yaml.Keeps s.toJson
  | .json => (∀ x ∈ s.doubles, (Json.float x).NumbersKept) ∧ s.toJson.depth ≤ Json.maxDepth

theorem KeptIn.keeps (formed : s.Formed) (kept : s.KeptIn f) : f.Keeps s.toJson :=
  match f with
  | .yaml => kept
  | .json => ⟨numbersKept_toJson formed kept.1, kept.2⟩

/-- The way through documents and files.  A specification without problems, of the types that a document can declare,
is read from its own document in each format, and it comes through one format and then the other.  It is loaded from
every ordinary file that it was saved to.  And every specification that a document was decoded as is of that kind.  Each
format is asked to keep the specification where it is used, and nowhere else. -/
theorem restored {s : Specification} (formed : s.Formed) (valid : s.problems = []) :
    (∀ f, s.KeptIn f → ofText f (s.render f) = .ok s ∧ ofValidText f (s.render f) = .ok s) ∧
    (∀ f g, s.KeptIn f → s.KeptIn g →
      (ofValidText f (s.render f) >>= fun t => ofValidText g (t.render g)) = .ok s) ∧
    (∀ path store store', s.KeptIn (.ofPath path) → save path s store = .ok store' →
      store'.hasFile [] path = true → load store' path = .ok s) ∧
    ∀ f text t, ofText f text = .ok t → t.Formed := by
  have back {f : DocumentFormat} (kept : s.KeptIn f) : ofValidText f (s.render f) = .ok s :=
    ofValidText_render formed valid (kept.keeps formed)
  refine ⟨fun f kept => ⟨ofText_render formed (kept.keeps formed), back kept⟩, fun f g kept kept' => ?_,
    fun path store store' kept => load_of_save formed valid (kept.keeps formed), fun f text t h => ?_⟩
  · rw [back kept]
    exact back kept'
  · obtain ⟨d, hd⟩ := DocumentFormat.of_decode h
    exact formed_of_decode hd

/-- A specification with something in every part: doubles, a generator, a case, settings of the optimizer, tables of
several entries and types below types, one of them unknown. -/
def forecast : Specification where
  metadata := ⟨"w", "1", none⟩
  schemas := [("v", .object [("ok", .boolean), ("at", .object [("y", .number), ("x", .unknown "date")])]), ("r", .string)]
  generators := [("g", ⟨"make", none⟩)]
  agent := ⟨"m", "p", .required, some 3⟩
  tools := [("t", ⟨"d", [("b", .string), ("a", .number)], "r", some "g"⟩)]
  benchmarks := [⟨"b", [⟨.user, "true"⟩], ["t"], ⟨"j", "v", some 0.5, none⟩⟩]
  optimizer := some ⟨none, some 4, none, none, some 99.5⟩

theorem formed_forecast : forecast.Formed where
  distinct := ⟨by decide, by simp [forecast, PropertyType.Distinct, PropertyType.DistinctFields, Table.keys], by decide,
    by decide, by simp [forecast, PropertyType.Distinct, PropertyType.DistinctFields, Table.keys]⟩
  schemaTypes := by simp [forecast, PropertyType.DeclarableFields, PropertyType.Declarable, PropertyType.knownNames]
  inputTypes := by simp [forecast, PropertyType.DeclarableFields, PropertyType.Declarable]
  maxSteps := by decide
  iterations := by decide

theorem keptIn_forecast : ∀ f, forecast.KeptIn f
  | .yaml => by
    have shows : (Yaml.read (Yaml.render forecast.toJson)).any (·.shows forecast.toJson) = true := by
      rw [Yaml.render, Yaml.read_ofList]
      decide +kernel
    obtain ⟨d, hread, hd⟩ := (Option.any_eq_true _ _).1 shows
    exact ⟨d, hread, .of_shows hd⟩
  | .json => by
    have half : Json.scanNumber false ['0', '.', '5'] = .ok (.float 0.5, []) := rfl
    have most : Json.scanNumber false ['9', '9', '.', '5'] = .ok (.float 99.5, []) := rfl
    have numbers : forecast.doubles = [0.5, 99.5] := rfl
    refine ⟨?_, by decide⟩
    rw [numbers, List.forall_mem_cons, List.forall_mem_cons]
    exact ⟨.float half, .float most, nofun⟩

theorem restored_forecast : forecast.problems = [] ∧ (∀ f, ofValidText f (forecast.render f) = .ok forecast) ∧
    (ofValidText .yaml (forecast.render .yaml) >>= fun t => ofValidText .json (t.render .json)) = .ok forecast ∧
    ∃ store, save "docs/a.yaml" forecast .empty = .ok store ∧ load store "docs/a.yaml" = .ok forecast := by
  have valid : forecast.problems = [] := by decide
  obtain ⟨read, through, loaded, -⟩ := restored formed_forecast valid
  have saved : save "docs/a.yaml" forecast .empty =
      .ok ⟨[(["docs"], .directory), (["docs", "a.yaml"], .file (forecast.render (.ofPath "docs/a.yaml")).toUTF8)]⟩ := rfl
  exact ⟨valid, fun f => (read f (keptIn_forecast f)).2, through _ _ (keptIn_forecast _) (keptIn_forecast _), _, saved,
    loaded _ _ _ (keptIn_forecast _) saved (by decide)⟩

end Specification

end AgentTrial
