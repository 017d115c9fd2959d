import AgentTrial.Host.Vitest
import AgentTrial.Proofs.Host.Artifact
import Mathlib.Data.List.Pairwise
import Mathlib.Data.List.Perm.Basic
import Mathlib.Data.List.Nodup

/-!
# Attribution — which unit a result of the test runner is for

A result is for the unit whose file its name ends with.  The names of the files of one submission are such that none
of them ends with another, even below a directory, so every unit gets its own result and no other.

* `FileResult.Belongs`: the result of a file, named alone or below a directory.
* `HostConfig.distinguished_unitFiles`: the files of a compiled submission can be told apart by the ends of their paths.
* `RunnerReport.find?_isOf_eq_some_iff`: what is found for a file is its own result.
* `report_attributed`: the blocks of all units, and that they hold every assertion about the units once.
-/

namespace AgentTrial

namespace FileResult

variable {r : FileResult} {f g : String}

/-- Is the result that of a file with this name, alone or below a directory? -/
def Belongs (r : FileResult) (fileName : String) : Prop :=
  r.name = fileName ∨ ∃ dir, r.name = dir ++ "/" ++ fileName

/-- What the test runner said about a file that it could not load. -/
def loadErrors (r : FileResult) : List HostError :=
  let message := Text.trimChars r.message.toList
  if message.isEmpty then [] else [RunnerReport.errorOf message]

theorem isOf_iff : r.isOf f = true ↔ f.toList <:+ r.name.toList := Text.endsWith_iff

theorem Belongs.suffix (h : r.Belongs f) : f.toList <:+ r.name.toList := by
  obtain hname | ⟨dir, hname⟩ := h
  · exact ⟨[], by simp [hname]⟩
  · exact ⟨(dir ++ "/").toList, by simp [hname]⟩

/-- What ends the name of a result and has no slash ends the name of its file. -/
theorem Belongs.suffix_of_suffix (h : r.Belongs g) (hf : '/' ∉ f.toList) (hs : f.toList <:+ r.name.toList) :
    f.toList <:+ g.toList := by
  obtain hname | ⟨dir, hname⟩ := h
  · rwa [hname] at hs
  · have hslash : r.name.toList = dir.toList ++ '/' :: g.toList := by simp [hname]
    rw [hslash] at hs
    exact Text.suffix_of_suffix_cons hf hs

end FileResult

/-! ## Files that can be told apart -/

/-- Files whose paths end with the name of one of them only. -/
structure Distinguished (files : List String) : Prop where
  slashless : ∀ f ∈ files, '/' ∉ f.toList
  apart : ∀ f ∈ files, ∀ g ∈ files, f.toList <:+ g.toList → f = g
  nodup : files.Nodup

namespace HostConfig

variable {s : Submission}

theorem distinguished_unitFiles (stemmed : Stemmed s) (slashless : '/' ∉ s.id.toList) :
    Distinguished (unitFiles s) := by
  refine ⟨?_, ?_, nodup_unitFiles stemmed⟩
  · intro f hf
    exact (isName_of_mem stemmed slashless f (List.mem_append_left _ hf)).1
  · intro f hf g hg hs
    obtain ⟨k, hk, rfl⟩ := List.mem_map.1 hf
    obtain ⟨j, hj, rfl⟩ := List.mem_map.1 hg
    rw [eq_of_suffix_unitFile stemmed (List.mem_range.1 hk) (List.mem_range.1 hj) hs]

/-- The names that a host asks its report for are those of the files, whatever directory it works in. -/
theorem unitNames_eq (c : HostConfig) (stemmed : Stemmed s) (slashless : '/' ∉ s.id.toList) :
    Vitest.unitNames c s = (unitFiles s).zip (s.units.map (·.name)) := by
  have hfiles : (c.unitPaths s).filterMap Path.fileName? = unitFiles s := by
    unfold unitPaths unitFiles
    rw [List.filterMap_map, ← List.filterMap_eq_map]
    refine List.filterMap_congr fun k hk => ?_
    rw [Function.comp_apply, Function.comp_apply, unitPath]
    have mem : unitFile s k ∈ artifactFiles s := List.mem_append_left _ (List.mem_map_of_mem hk)
    exact Path.fileName?_join c.workDir (isName_of_mem stemmed slashless _ mem)
  rw [Vitest.unitNames, hfiles]

end HostConfig

/-! ## Results for files -/

namespace RunnerReport

/-- A report on files: no two of its results belong to one of them, and a result that belongs to none of them ends
with the name of none. -/
structure Fits (r : RunnerReport) (files : List String) : Prop where
  single : r.results.Pairwise fun a b => ∀ f ∈ files, ¬ (a.Belongs f ∧ b.Belongs f)
  strange : ∀ e ∈ r.results, (∃ f ∈ files, e.Belongs f) ∨ ∀ f ∈ files, ¬ f.toList <:+ e.name.toList

/-- What the unit of a file gets from a report. -/
inductive Attributed (r : RunnerReport) (file name : String) : List UnitReport → Prop
  | missing (absent : ∀ e ∈ r.results, ¬ e.Belongs file) :
      Attributed r file name [⟨name, .unknown, 0, [⟨"unit missing from host report", none⟩], none⟩]
  | unloaded {e : FileResult} (mem : e ∈ r.results) (own : e.Belongs file) (bare : e.assertions = []) :
      Attributed r file name [⟨name, .unknown, 0, e.loadErrors, none⟩]
  | told {e : FileResult} (mem : e ∈ r.results) (own : e.Belongs file) (some : e.assertions ≠ []) :
      Attributed r file name (e.assertions.map unitOf)

open Classical in
/-- The reports on all assertions about some files, in the order of the results. -/
noncomputable def toldAbout (r : RunnerReport) (files : List String) : List UnitReport :=
  (r.results.filter fun e => ∃ f ∈ files, e.Belongs f).flatMap fun e => e.assertions.map unitOf

section Files

variable {r r' : RunnerReport} {files : List String} {f : String} {e : FileResult}

theorem Fits.perm (fits : r.Fits files) (h : r'.results.Perm r.results) : r'.Fits files := by
  refine ⟨(h.pairwise_iff ?_).2 fits.single, fun e he => fits.strange e (h.mem_iff.1 he)⟩
  intro a b hab f hf hboth
  exact hab f hf hboth.symm

theorem Fits.isOf_iff (fits : r.Fits files) (distinct : Distinguished files) (hf : f ∈ files) (he : e ∈ r.results) :
    e.isOf f = true ↔ e.Belongs f := by
  rw [FileResult.isOf_iff]
  refine ⟨fun hs => ?_, FileResult.Belongs.suffix⟩
  rcases fits.strange e he with ⟨g, hg, hown⟩ | hnone
  · have hfg := distinct.apart f hf g hg (hown.suffix_of_suffix (distinct.slashless f hf) hs)
    rwa [hfg]
  · exact absurd hs (hnone f hf)

/-- Only one result belongs to a file. -/
theorem Fits.unique (fits : r.Fits files) (hf : f ∈ files) {a b : FileResult} (ha : a ∈ r.results)
    (hb : b ∈ r.results) (hown : a.Belongs f) (hown' : b.Belongs f) : a = b := by
  by_contra hne
  have : Std.Symm fun a b : FileResult => ∀ f ∈ files, ¬ (a.Belongs f ∧ b.Belongs f) :=
    ⟨fun a b hab f hf hboth => hab f hf hboth.symm⟩
  exact fits.single.forall ha hb hne f hf ⟨hown, hown'⟩

theorem find?_isOf_eq_some_iff (fits : r.Fits files) (distinct : Distinguished files) (hf : f ∈ files) :
    r.results.find? (·.isOf f) = some e ↔ e ∈ r.results ∧ e.Belongs f := by
  constructor
  · intro h
    have he := List.mem_of_find?_eq_some h
    exact ⟨he, (fits.isOf_iff distinct hf he).1 (List.find?_some h)⟩
  · rintro ⟨he, hown⟩
    cases hfind : r.results.find? (·.isOf f) with
    | none =>
      have hno := List.find?_eq_none.1 hfind e he
      exact absurd ((fits.isOf_iff distinct hf he).2 hown) hno
    | some a =>
      have ha := List.mem_of_find?_eq_some hfind
      have hown' := (fits.isOf_iff distinct hf ha).1 (List.find?_some hfind)
      rw [fits.unique hf ha he hown' hown]

theorem find?_isOf_eq_none_iff (fits : r.Fits files) (distinct : Distinguished files) (hf : f ∈ files) :
    r.results.find? (·.isOf f) = none ↔ ∀ e ∈ r.results, ¬ e.Belongs f := by
  rw [List.find?_eq_none]
  refine forall₂_congr fun e he => ?_
  rw [fits.isOf_iff distinct hf he]

theorem block_attributed (fits : r.Fits files) (distinct : Distinguished files) (hf : f ∈ files) (name : String) :
    r.Attributed f name (block name (r.results.find? (·.isOf f))) := by
  cases hfind : r.results.find? (·.isOf f) with
  | none => exact .missing ((find?_isOf_eq_none_iff fits distinct hf).1 hfind)
  | some e =>
    obtain ⟨he, hown⟩ := (find?_isOf_eq_some_iff fits distinct hf).1 hfind
    rw [block]
    by_cases hbare : e.assertions = []
    · rw [if_pos (by simp [hbare])]
      exact .unloaded he hown hbare
    · rw [if_neg (by simpa using hbare)]
      exact .told he hown hbare

/-- The order of the results does not matter. -/
theorem blocks_perm (fits : r.Fits files) (distinct : Distinguished files) (h : r'.results.Perm r.results)
    {units : List (String × String)} (hunits : ∀ u ∈ units, u.1 ∈ files) : r'.blocks units = r.blocks units := by
  refine List.map_congr_left fun u hu => ?_
  have hsame : r'.results.find? (·.isOf u.1) = r.results.find? (·.isOf u.1) := by
    refine Option.ext fun e => ?_
    rw [find?_isOf_eq_some_iff (fits.perm h) distinct (hunits u hu),
      find?_isOf_eq_some_iff fits distinct (hunits u hu), h.mem_iff]
  dsimp only
  rw [hsame]

/-! ## Every assertion once -/

/-- What a block holds of the assertions of a result. -/
def toldBy : Option FileResult → List UnitReport
  | none => []
  | some e => e.assertions.map unitOf

/-- What a block holds in place of assertions. -/
def standIn (name : String) : Option FileResult → List UnitReport
  | none => block name none
  | some e => if e.assertions.isEmpty then block name (some e) else []

theorem block_eq (name : String) (found : Option FileResult) :
    block name found = toldBy found ++ standIn name found := by
  cases found with
  | none => rfl
  | some e =>
    by_cases hbare : e.assertions.isEmpty = true
    · rw [standIn, if_pos hbare, toldBy, List.isEmpty_iff.1 hbare]
      rfl
    · rw [standIn, if_neg hbare, block, if_neg hbare, toldBy, List.append_nil]

theorem unknown_of_mem_standIn {name : String} {found : Option FileResult} {u : UnitReport}
    (h : u ∈ standIn name found) : ∃ errors, u = unknownUnit name errors := by
  cases found with
  | none => exact ⟨_, List.mem_singleton.1 h⟩
  | some e =>
    rw [standIn] at h
    split_ifs at h with hbare
    · rw [block, if_pos hbare] at h
      exact ⟨_, List.mem_singleton.1 h⟩
    · cases h

/-- A unit of a block is that of an assertion, or stands in for missing ones. -/
theorem told_or_unknown {name : String} {found : Option FileResult} {u : UnitReport} (h : u ∈ block name found) :
    (∃ e, found = some e ∧ ∃ a ∈ e.assertions, u = unitOf a) ∨ ∃ errors, u = unknownUnit name errors := by
  rw [block_eq] at h
  rcases List.mem_append.1 h with htold | hstand
  · cases found with
    | none => cases htold
    | some e =>
      obtain ⟨a, ha, rfl⟩ := List.mem_map.1 htold
      exact .inl ⟨e, rfl, a, ha, rfl⟩
  · exact .inr (unknown_of_mem_standIn hstand)

/-- What is found for the files is what belongs to them. -/
theorem found_perm (fits : r.Fits files) (distinct : Distinguished files) :
    ((files.filterMap fun f => r.results.find? (·.isOf f)).flatMap fun e => e.assertions.map unitOf).Perm
      (r.toldAbout files) := by
  classical
  refine List.Perm.flatMap_right _ ?_
  refine (List.perm_ext_iff_of_nodup ?_ ?_).2 ?_
  · rw [List.Nodup, List.pairwise_filterMap]
    refine distinct.nodup.imp_of_mem ?_
    rintro f g hf hg hne e hfound e' hfound' rfl
    obtain ⟨-, hown⟩ := (find?_isOf_eq_some_iff fits distinct hf).1 hfound
    obtain ⟨-, hown'⟩ := (find?_isOf_eq_some_iff fits distinct hg).1 hfound'
    exact hne (distinct.apart f hf g hg (hown'.suffix_of_suffix (distinct.slashless f hf) hown.suffix))
  · refine (fits.single.filter _).imp_of_mem ?_
    rintro a b ha - hab rfl
    obtain ⟨-, hown⟩ := List.mem_filter.1 ha
    obtain ⟨f, hf, hown⟩ := of_decide_eq_true hown
    exact hab f hf ⟨hown, hown⟩
  · intro e
    rw [List.mem_filterMap, List.mem_filter, decide_eq_true_iff]
    constructor
    · rintro ⟨f, hf, hfound⟩
      obtain ⟨he, hown⟩ := (find?_isOf_eq_some_iff fits distinct hf).1 hfound
      exact ⟨he, f, hf, hown⟩
    · rintro ⟨he, f, hf, hown⟩
      exact ⟨f, hf, (find?_isOf_eq_some_iff fits distinct hf).2 ⟨he, hown⟩⟩

theorem flatMap_toldBy (units : List (String × String)) :
    (units.flatMap fun u => toldBy (r.results.find? (·.isOf u.1))) =
      ((units.map Prod.fst).filterMap fun f => r.results.find? (·.isOf f)).flatMap
        fun e => e.assertions.map unitOf := by
  induction units with
  | nil => rfl
  | cons u units ih =>
    rw [List.flatMap_cons, ih, List.map_cons]
    cases hfind : r.results.find? (·.isOf u.1) with
    | none => simp [hfind, toldBy]
    | some e => simp [hfind, toldBy]

/-- The reports of the units are those on their assertions, and one for each unit that has none. -/
theorem units_perm (fits : r.Fits files) (distinct : Distinguished files) {units : List (String × String)}
    (hunits : units.map Prod.fst = files) :
    (r.toHostReport units).units.Perm
      (r.toldAbout files ++ units.flatMap fun u => standIn u.2 (r.results.find? (·.isOf u.1))) := by
  have hblocks : (r.toHostReport units).units = units.flatMap fun u =>
      toldBy (r.results.find? (·.isOf u.1)) ++ standIn u.2 (r.results.find? (·.isOf u.1)) := by
    simp only [← block_eq]
    rfl
  rw [hblocks]
  refine (List.flatMap_append_perm _ _ _).symm.trans (List.Perm.append_right _ ?_)
  rw [flatMap_toldBy, hunits]
  exact found_perm fits distinct

end Files

/-- What a host makes of a report for a submission whose units it asks for by these names. -/
structure Attribution (r : RunnerReport) (s : Submission) (units : List (String × String)) : Prop where
  /-- Each unit gets, in its place, a block that is built from the result of its own file alone. -/
  blocks : ∃ blocks : List (List UnitReport), (r.toHostReport units).units = blocks.flatten ∧
    blocks.length = s.units.length ∧ ∀ k u block, s.units[k]? = some u → blocks[k]? = some block →
      r.Attributed (HostConfig.unitFile s k) u.name block
  /-- The order of the results does not matter. -/
  unordered : ∀ r' : RunnerReport, r'.success = r.success → r'.results.Perm r.results →
    r'.toHostReport units = r.toHostReport units
  /-- Apart from what stands in for missing assertions, the blocks hold every assertion about the files once. -/
  once : ∃ standIns, (r.toHostReport units).units.Perm (r.toldAbout (HostConfig.unitFiles s) ++ standIns) ∧
    ∀ v ∈ standIns, ∃ u ∈ s.units, ∃ errors, v = unknownUnit u.name errors
  /-- The host gives all this for every text that says so. -/
  read : ∀ text, Json.ofText fields.decode text = .ok r → readHostReport text units = .ok (r.toHostReport units)

/-- A report on the files of a compiled submission is attributed, whatever else it holds and in whatever order. -/
theorem attribution_of_compile {spec : Specification} {p : SourceProgram} (compiled : Program.compile spec = .ok p)
    {s : Submission} (units : s.units = p.units) (slashless : '/' ∉ s.id.toList) {r : RunnerReport}
    (fits : r.Fits (HostConfig.unitFiles s)) (c : HostConfig) : r.Attribution s (Vitest.unitNames c s) := by
  have stemmed : HostConfig.Stemmed s := fun k u hu => Program.fileStem_of_compile compiled (units ▸ hu)
  have distinct := HostConfig.distinguished_unitFiles stemmed slashless
  have hlength : (HostConfig.unitFiles s).length = (s.units.map (·.name)).length := by simp [HostConfig.unitFiles]
  have hfiles : ((HostConfig.unitFiles s).zip (s.units.map (·.name))).map Prod.fst = HostConfig.unitFiles s :=
    List.map_fst_zip (Nat.le_of_eq hlength)
  have hmem : ∀ u ∈ (HostConfig.unitFiles s).zip (s.units.map (·.name)), u.1 ∈ HostConfig.unitFiles s ∧
      ∃ v ∈ s.units, v.name = u.2 := by
    intro u hu
    obtain ⟨hfile, hname⟩ := List.of_mem_zip hu
    exact ⟨hfile, List.mem_map.1 hname⟩
  rw [HostConfig.unitNames_eq c stemmed slashless]
  refine ⟨⟨_, rfl, ?_, ?_⟩, ?_, ⟨_, units_perm fits distinct hfiles, ?_⟩, ?_⟩
  · rw [blocks_length]
    simp [HostConfig.unitFiles]
  · intro k u block hu hblock
    rw [RunnerReport.blocks, List.getElem?_map] at hblock
    obtain ⟨⟨file, name⟩, hx, rfl⟩ := Option.map_eq_some_iff.1 hblock
    obtain ⟨hfile, hname⟩ := List.getElem?_zip_eq_some.1 hx
    have hname' : u.name = name := by
      rw [List.getElem?_map, hu] at hname
      exact Option.some.inj hname
    have hfile' : HostConfig.unitFile s k = file := by
      have hk := (List.getElem?_eq_some_iff.1 hu).1
      rw [HostConfig.unitFiles, List.getElem?_map, List.getElem?_range hk] at hfile
      exact Option.some.inj hfile
    rw [hname', hfile']
    exact block_attributed fits distinct (List.mem_of_getElem? hfile) name
  · intro r' hsuccess hperm
    rw [toHostReport, toHostReport, hsuccess, blocks_perm fits distinct hperm fun u hu => (hmem u hu).1]
  · intro v hv
    obtain ⟨x, hx, hstand⟩ := List.mem_flatMap.1 hv
    obtain ⟨-, u, hu, hname⟩ := hmem x hx
    obtain ⟨errors, rfl⟩ := unknown_of_mem_standIn hstand
    exact ⟨u, hu, errors, by rw [hname]⟩
  · intro text htext
    rw [readHostReport, htext]

/-- Two cases whose names have the same slug. -/
def twins : Specification where
  metadata := ⟨"weather", "0.1.0", none⟩
  schemas := [("verdict", .object [("passed", .boolean)])]
  agent := ⟨"m", "p", .auto, none⟩
  benchmarks :=
    [⟨"Paris forecast", [⟨.user, "hi"⟩], [], ⟨"Is it?", "verdict", none, none⟩⟩,
      ⟨"paris-forecast", [⟨.user, "hi"⟩], [], ⟨"Is it?", "verdict", none, none⟩⟩]

/-- A report on a file of its own and on the second of two files. -/
def partialReport : RunnerReport :=
  ⟨true, [⟨"setup.ts", "", []⟩,
    ⟨"/work/agentspec-x-002_paris_forecast.test.ts", "", [⟨"paris-forecast", "passed", none, [], none⟩]⟩]⟩

theorem files_twins : ∃ p, Program.compile twins = .ok p ∧ HostConfig.unitFiles ⟨"x", p.units, .empty⟩ =
    ["agentspec-x-001_paris_forecast.test.ts", "agentspec-x-002_paris_forecast.test.ts"] :=
  ⟨_, rfl, by decide +kernel⟩

theorem fits_partialReport :
    partialReport.Fits ["agentspec-x-001_paris_forecast.test.ts", "agentspec-x-002_paris_forecast.test.ts"] := by
  have hsetup : ∀ f ∈ ["agentspec-x-001_paris_forecast.test.ts", "agentspec-x-002_paris_forecast.test.ts"],
      ¬ f.toList <:+ "setup.ts".toList := by decide
  refine ⟨?_, ?_⟩
  · refine .cons ?_ (List.pairwise_singleton _ _)
    intro b _ f hf hboth
    exact hsetup f hf hboth.1.suffix
  · intro e he
    simp only [partialReport, List.mem_cons, List.not_mem_nil, or_false] at he
    obtain rfl | rfl := he
    · exact .inr hsetup
    · exact .inl ⟨"agentspec-x-002_paris_forecast.test.ts", by simp, .inr ⟨"/work", rfl⟩⟩

theorem attribution_twins : ∃ p, Program.compile twins = .ok p ∧ '/' ∉ "x".toList ∧
    partialReport.Fits (HostConfig.unitFiles ⟨"x", p.units, .empty⟩) ∧
    partialReport.Attribution ⟨"x", p.units, .empty⟩ (Vitest.unitNames .standard ⟨"x", p.units, .empty⟩) := by
  obtain ⟨p, compiled, hfiles⟩ := files_twins
  have slashless : '/' ∉ "x".toList := by decide
  have fits : partialReport.Fits (HostConfig.unitFiles ⟨"x", p.units, .empty⟩) := by
    rw [hfiles]
    exact fits_partialReport
  exact ⟨p, compiled, slashless, fits, attribution_of_compile compiled rfl slashless fits .standard⟩

end RunnerReport

end AgentTrial
