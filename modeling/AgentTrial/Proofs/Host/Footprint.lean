import AgentTrial.Proofs.Host.Attribution
import AgentTrial.Proofs.Store.Remove

/-!
# Footprint — what a host does to the files of a store

A host writes the files of a submission and removes them again.  Their names are its own, so it does no harm to other
files, and none of its files to another one.

* `Vitest.spares_writeUnits`, `Vitest.spares_cleanUp`: all that has other names is left alone.
* `Vitest.read_writeUnits`: every unit is read as it was written.
* `Vitest.cleanUp_only`, `Vitest.cleanUp_all`: what a clean-up takes away.
-/

namespace AgentTrial

open Store

namespace Vitest

variable {store : Store} {dir : String} {names : List String}

/-! ## Writing -/

theorem spares_writeAll {files : List (String × String)} (named : ∀ f ∈ files, Named names f.1) :
    Spares names store (writeAll files store).2 := by
  fun_induction writeAll files store with
  | case1 store => exact .refl names store
  | case2 path text rest store e hwrite => exact .refl names store
  | case3 path text rest store store' hwrite ih =>
    obtain ⟨hpath, hrest⟩ := List.forall_mem_cons.1 named
    exact (spares_write hpath hwrite).trans (ih hrest)

/-- Files of these names and texts in a directory. -/
def inDirectory (dir : String) (files : List (String × String)) : List (String × String) :=
  files.map fun f => (Path.join dir f.1, f.2)

theorem named_inDirectory {files : List (String × String)} (isName : ∀ f ∈ files, Path.IsName f.1) :
    ∀ f ∈ inDirectory dir files, Named (files.map Prod.fst) f.1 := by
  intro f hf
  obtain ⟨g, hg, rfl⟩ := List.mem_map.1 hf
  exact ⟨dir, g.1, List.mem_map_of_mem hg, isName g hg, rfl⟩

/-- By induction on the files: what was written is left alone by the files after it, which have other names. -/
theorem read_writeAll {files : List (String × String)} (isName : ∀ f ∈ files, Path.IsName f.1)
    (nodup : (files.map Prod.fst).Nodup) (done : (writeAll (inDirectory dir files) store).1 = .ok ()) :
    ∀ f ∈ files, (writeAll (inDirectory dir files) store).2.hasDevice [] (Path.join dir f.1) = false →
      (writeAll (inDirectory dir files) store).2.read [] (Path.join dir f.1) = .ok f.2.toUTF8 := by
  induction files generalizing store with
  | nil => exact List.forall_mem_nil _
  | cons f files ih =>
    obtain ⟨hname, hnames⟩ := List.forall_mem_cons.1 isName
    obtain ⟨hnew, nodup⟩ := List.nodup_cons.1 nodup
    rw [inDirectory, List.map_cons, writeAll] at done ⊢
    cases hwrite : store.write [] (Path.join dir f.1) f.2.toUTF8 with
    | error e =>
      rw [hwrite] at done
      cases done
    | ok store' =>
      rw [hwrite] at done
      have rest : Spares (files.map Prod.fst) store' (writeAll (inDirectory dir files) store').2 :=
        spares_writeAll (named_inDirectory hnames)
      refine List.forall_mem_cons.2 ⟨fun kept => ?_, ih hnames nodup done⟩
      have kept' : store'.hasDevice [] (Path.join dir f.1) = false := by
        by_contra hdevice
        have hdevice' := rest.hasDevice hname hnew (by simpa using hdevice)
        exact absurd (hdevice'.symm.trans kept) Bool.noConfusion
      exact rest.read hname hnew (read_of_write hwrite kept')

/-! ## Removing -/

section Removing

variable {paths : List String}

theorem spares_removeAll (named : ∀ path ∈ paths, Named names path) : Spares names store (removeAll paths store).2 := by
  fun_induction removeAll paths store with
  | case1 store => exact .refl names store
  | case2 path rest store store' hremove ih =>
    obtain ⟨hpath, hrest⟩ := List.forall_mem_cons.1 named
    exact (spares_remove hpath hremove).trans (ih hrest)
  | case3 path rest store hremove ih => exact ih (List.forall_mem_cons.1 named).2
  | case4 path rest store e hremove he => exact .refl names store

/-- What stands elsewhere stays. -/
theorem removeAll_only (paths : List String) (store : Store) (q : Location) :
    (removeAll paths store).2.look? q = store.look? q ∨
      (removeAll paths store).2.look? q = fixed? q ∧ ∃ path ∈ paths, store.locate [] path = .ok q := by
  fun_induction removeAll paths store with
  | case1 store => exact .inl rfl
  | case2 path rest store store' hremove ih =>
    obtain ⟨place, hplace, -, rfl⟩ := remove_cases hremove
    rcases ih with hsame | ⟨hgone, path', hmem, hpath'⟩
    · by_cases hq : place = q
      · refine .inr ⟨?_, path, List.mem_cons_self, hq ▸ hplace⟩
        rw [hsame, look?_erase, if_pos hq]
      · rw [look?_erase, if_neg hq] at hsame
        exact .inl hsame
    · have hpath := locate_mono directoriesIn_of_erase hpath'
      exact .inr ⟨hgone, path', List.mem_cons_of_mem _ hmem, hpath⟩
  | case3 path rest store hremove ih =>
    rcases ih with hsame | ⟨hgone, path', hmem, hpath'⟩
    · exact .inl hsame
    · exact .inr ⟨hgone, path', List.mem_cons_of_mem _ hmem, hpath'⟩
  | case4 path rest store e hremove he => exact .inl rfl

/-- If nothing went wrong, nothing is left at any of the paths. -/
theorem removeAll_all (done : (removeAll paths store).1 = .ok ()) :
    ∀ path ∈ paths, ∀ q, store.locate [] path = .ok q → (removeAll paths store).2.look? q = fixed? q := by
  fun_induction removeAll paths store with
  | case1 store => exact List.forall_mem_nil _
  | case2 path rest store store' hremove ih =>
    obtain ⟨place, hplace, notDirectory, rfl⟩ := remove_cases hremove
    refine List.forall_mem_cons.2 ⟨fun q hq => ?_, fun path' hmem q hq => ?_⟩
    · obtain rfl : place = q := Except.ok.inj (hplace.symm.trans hq)
      rcases removeAll_only rest (store.erase place) place with hsame | ⟨hgone, -⟩
      · rw [hsame, look?_erase, if_pos rfl]
      · exact hgone
    · exact ih done path' hmem q (locate_mono (directoriesIn_erase notDirectory) hq)
  | case3 path rest store hremove ih =>
    refine List.forall_mem_cons.2 ⟨fun q hq => ?_, ih done⟩
    have hnone := look?_of_remove_notFound hremove hq
    have hfixed : fixed? q = none := by
      rw [look?, Option.or_eq_none_iff] at hnone
      exact hnone.1
    rcases removeAll_only rest store q with hsame | ⟨hgone, -⟩
    · rw [hsame, hnone, hfixed]
    · exact hgone
  | case4 path rest store e hremove he => cases done

/-- If something went wrong, it was with a path that is there and cannot be removed; those before it are removed, and
nothing is done about those after it. -/
theorem removeAll_failed {f : Fault} (failed : (removeAll paths store).1 = .error f) : ∃ before path after e,
    paths = before ++ path :: after ∧ removeAll before store = (.ok (), (removeAll paths store).2) ∧
      (removeAll paths store).2.remove [] path = .error e ∧ e ≠ .notFound ∧ f = .store e := by
  fun_induction removeAll paths store with
  | case1 store => cases failed
  | case2 path rest store store' hremove ih =>
    obtain ⟨before, path', after, e, rfl, hbefore, hstop⟩ := ih failed
    refine ⟨path :: before, path', after, e, rfl, ?_, hstop⟩
    rw [removeAll, hremove]
    exact hbefore
  | case3 path rest store hremove ih =>
    obtain ⟨before, path', after, e, rfl, hbefore, hstop⟩ := ih failed
    refine ⟨path :: before, path', after, e, rfl, ?_, hstop⟩
    rw [removeAll, hremove]
    exact hbefore
  | case4 path rest store e hremove he => exact ⟨[], path, rest, e, rfl, rfl, hremove, he, (Except.error.inj failed).symm⟩

end Removing

/-! ## A host -/

open HostConfig

section Host

variable {c d : HostConfig} {s t : Submission}

theorem zip_unitPaths (c : HostConfig) (s : Submission) (sources : List String) :
    (c.unitPaths s).zip sources = inDirectory c.workDir ((unitFiles s).zip sources) := by
  have hpaths : c.unitPaths s = (unitFiles s).map (Path.join c.workDir) := by
    rw [unitFiles, List.map_map]
    rfl
  rw [hpaths, List.zip_map_left]
  rfl

theorem named_artifacts (stemmed : Stemmed s) (slashless : '/' ∉ s.id.toList) :
    ∀ path ∈ c.artifacts s, Named (artifactFiles s) path := by
  intro path hpath
  rw [artifacts_eq] at hpath
  obtain ⟨name, hname, rfl⟩ := List.mem_map.1 hpath
  exact ⟨c.workDir, name, hname, isName_of_mem stemmed slashless name hname, rfl⟩

/-- Writing the units leaves alone what has other names. -/
theorem spares_writeUnits (stemmed : Stemmed s) (slashless : '/' ∉ s.id.toList) (store : Store) :
    Spares (artifactFiles s) store (writeUnits c s store).2 := by
  unfold writeUnits
  cases hmake : store.makeDirectories [] c.workDir with
  | error e => exact .refl _ store
  | ok store' =>
    dsimp only
    have made : Spares (artifactFiles s) store store' := (spares_makeDirectories hmake).mono (List.forall_mem_nil _)
    have written : Spares (artifactFiles s) store' (writeAll ((c.unitPaths s).zip (s.units.map (·.source))) store').2 :=
      spares_writeAll fun f hf => named_artifacts stemmed slashless _ (List.mem_append_left _ (List.of_mem_zip hf).1)
    exact made.trans written

/-- Once all units are written, each is read as it was written, unless its file is a device. -/
theorem read_writeUnits (stemmed : Stemmed s) (slashless : '/' ∉ s.id.toList)
    (done : (writeUnits c s store).1 = .ok ()) {i : Nat} {u : CompiledUnit} (hu : s.units[i]? = some u)
    (kept : (writeUnits c s store).2.hasDevice [] (c.unitPath s i) = false) :
    (writeUnits c s store).2.read [] (c.unitPath s i) = .ok u.source.toUTF8 := by
  have hi : i < s.units.length := (List.getElem?_eq_some_iff.1 hu).1
  have hfile : (unitFiles s)[i]? = some (unitFile s i) := by
    rw [unitFiles, List.getElem?_map, List.getElem?_range hi]
    rfl
  have hsource : (s.units.map (·.source))[i]? = some u.source := by
    rw [List.getElem?_map, hu]
    rfl
  have mem : (unitFile s i, u.source) ∈ (unitFiles s).zip (s.units.map (·.source)) :=
    List.mem_of_getElem? (List.getElem?_zip_eq_some.2 ⟨hfile, hsource⟩)
  have nodup : (((unitFiles s).zip (s.units.map (·.source))).map Prod.fst).Nodup := by
    rw [List.map_fst_zip (by simp [unitFiles])]
    exact nodup_unitFiles stemmed
  unfold writeUnits at done kept ⊢
  rw [unitPath] at kept ⊢
  cases hmake : store.makeDirectories [] c.workDir with
  | error e =>
    rw [hmake] at done
    cases done
  | ok store' =>
    rw [hmake] at done kept
    dsimp only at done kept ⊢
    rw [zip_unitPaths] at done kept ⊢
    have isName : ∀ f ∈ (unitFiles s).zip (s.units.map (·.source)), Path.IsName f.1 := fun f hf =>
      isName_of_mem stemmed slashless _ (List.mem_append_left _ (List.of_mem_zip hf).1)
    exact read_writeAll isName nodup done (unitFile s i, u.source) mem kept

/-- Cleaning up leaves alone what has other names. -/
theorem spares_cleanUp (stemmed : Stemmed s) (slashless : '/' ∉ s.id.toList) (store : Store) :
    Spares (artifactFiles s) store (cleanUp c s store).2 := by
  unfold cleanUp
  split_ifs with hkeep
  · exact .refl _ store
  · exact spares_removeAll (named_artifacts stemmed slashless)

/-- What stands where a path of a submission leads can be removed. -/
theorem fixed?_of_artifact (stemmed : Stemmed s) (slashless : '/' ∉ s.id.toList) {path : String} {q : Location}
    (h : path ∈ c.artifacts s) (hq : store.locate [] path = .ok q) : fixed? q = none := by
  obtain ⟨name, hname, hlast⟩ := (named_artifacts stemmed slashless path h).last hq
  exact fixed?_eq_none_of_last hlast (notMem_fixed_of_mem stemmed hname)

/-- A clean-up takes away nothing but the files of the submission. -/
theorem cleanUp_only (stemmed : Stemmed s) (slashless : '/' ∉ s.id.toList) (store : Store) (q : Location) :
    (cleanUp c s store).2.look? q = store.look? q ∨
      (cleanUp c s store).2.look? q = none ∧ ∃ path ∈ c.artifacts s, store.locate [] path = .ok q := by
  unfold cleanUp
  split_ifs with hkeep
  · exact .inl rfl
  · rcases removeAll_only (c.artifacts s) store q with hsame | ⟨hgone, path, hmem, hpath⟩
    · exact .inl hsame
    · rw [fixed?_of_artifact stemmed slashless hmem hpath] at hgone
      exact .inr ⟨hgone, path, hmem, hpath⟩

/-- A clean-up that succeeds takes away all of them, unless they are to be kept. -/
theorem cleanUp_all (stemmed : Stemmed s) (slashless : '/' ∉ s.id.toList) (drop : c.keepArtifacts = false)
    (done : (cleanUp c s store).1 = .ok ()) : ∀ path ∈ c.artifacts s, ∀ q, store.locate [] path = .ok q →
      (cleanUp c s store).2.look? q = none := by
  intro path hmem q hq
  have hall : (cleanUp c s store).2.look? q = fixed? q := by
    unfold cleanUp at done ⊢
    rw [drop, if_neg Bool.false_ne_true] at done ⊢
    exact removeAll_all done path hmem q hq
  rw [hall, fixed?_of_artifact stemmed slashless hmem hq]

/-- A clean-up fails at the first file that cannot be removed. -/
theorem cleanUp_failed {f : Fault} (failed : (cleanUp c s store).1 = .error f) : ∃ before path after e,
    c.artifacts s = before ++ path :: after ∧ removeAll before store = (.ok (), (cleanUp c s store).2) ∧
      (cleanUp c s store).2.remove [] path = .error e ∧ e ≠ .notFound ∧ f = .store e := by
  unfold cleanUp at failed ⊢
  split_ifs at failed ⊢ with hkeep
  · cases failed
  · exact removeAll_failed failed

/-- How a host deals with the files of a submission. -/
structure Orderly (c : HostConfig) (s : Submission) : Prop where
  /-- The paths of the units and of the report are of different files. -/
  apart : (c.artifacts s).Pairwise Apart
  /-- No unit is written over another one. -/
  written : ∀ store, (writeUnits c s store).1 = .ok () → ∀ (i : Nat) u, s.units[i]? = some u →
    (writeUnits c s store).2.hasDevice [] (c.unitPath s i) = false →
    (writeUnits c s store).2.read [] (c.unitPath s i) = .ok u.source.toUTF8
  /-- Nothing but these files is taken away. -/
  only : ∀ store q, (cleanUp c s store).2.look? q = store.look? q ∨
    (cleanUp c s store).2.look? q = none ∧ ∃ path ∈ c.artifacts s, store.locate [] path = .ok q
  /-- All of them are, if the clean-up succeeds. -/
  all : c.keepArtifacts = false → ∀ store, (cleanUp c s store).1 = .ok () → ∀ path ∈ c.artifacts s, ∀ q,
    store.locate [] path = .ok q → (cleanUp c s store).2.look? q = none
  /-- If it fails, it is at a file that cannot be removed, and those before it are. -/
  failed : ∀ store f, (cleanUp c s store).1 = .error f → ∃ before path after e,
    c.artifacts s = before ++ path :: after ∧ removeAll before store = (.ok (), (cleanUp c s store).2) ∧
      (cleanUp c s store).2.remove [] path = .error e ∧ e ≠ .notFound ∧ f = .store e
  /-- None is, if they are to be kept. -/
  kept : c.keepArtifacts = true → ∀ store, cleanUp c s store = (.ok (), store)

/-- A host does no harm to the files of another submission, of the same host or another one. -/
structure Separate (c : HostConfig) (s : Submission) (d : HostConfig) (t : Submission) : Prop where
  /-- No path of the one is of a file of the other. -/
  apart : ∀ a ∈ c.artifacts s, ∀ b ∈ d.artifacts t, Apart a b
  /-- What is read from a file of the other is read from it after the units of the one were written. -/
  written : ∀ store, ∀ path ∈ d.artifacts t, ∀ base data, store.read base path = .ok data →
    (writeUnits c s store).2.read base path = .ok data
  /-- And so it is after the one was cleaned up. -/
  cleaned : ∀ store, ∀ path ∈ d.artifacts t, ∀ base data, store.read base path = .ok data →
    (cleanUp c s store).2.read base path = .ok data

theorem orderly_of_stemmed (c : HostConfig) (stemmed : Stemmed s) (slashless : '/' ∉ s.id.toList) : Orderly c s := by
  have isName := isName_of_mem stemmed slashless
  refine ⟨?_, fun store done i u => read_writeUnits stemmed slashless done, cleanUp_only stemmed slashless,
    fun drop store => cleanUp_all stemmed slashless drop, fun store f => cleanUp_failed,
    fun keep => cleanUp_of_keepArtifacts keep s⟩
  rw [artifacts_eq, List.pairwise_map]
  refine (nodup_artifactFiles stemmed).imp_of_mem fun hname hname' hne => ?_
  exact apart_join (isName _ hname) (isName _ hname') hne _ _

theorem separate_of_stemmed (c d : HostConfig) (hs : Stemmed s) (ht : Stemmed t) (slashless : '/' ∉ s.id.toList)
    (slashless' : '/' ∉ t.id.toList) (h : s.id ≠ t.id) : Separate c s d t := by
  have isName := isName_of_mem ht slashless'
  have other : ∀ name ∈ artifactFiles t, name ∉ artifactFiles s := fun name hname hname' =>
    h (id_eq_of_mem hs ht hname' hname)
  have apart : ∀ a ∈ c.artifacts s, ∀ b ∈ d.artifacts t, Apart a b := by
    intro a ha b hb
    rw [artifacts_eq] at ha hb
    obtain ⟨name, hname, rfl⟩ := List.mem_map.1 ha
    obtain ⟨name', hname', rfl⟩ := List.mem_map.1 hb
    refine apart_join (isName_of_mem hs slashless name hname) (isName name' hname') ?_ _ _
    rintro rfl
    exact other name hname' hname
  have spared {store store' : Store} (spares : Spares (artifactFiles s) store store') : ∀ path ∈ d.artifacts t,
      ∀ base data, store.read base path = .ok data → store'.read base path = .ok data := by
    intro path hpath base data
    rw [artifacts_eq] at hpath
    obtain ⟨name, hname, rfl⟩ := List.mem_map.1 hpath
    exact spares.read (isName name hname) (other name hname)
  exact ⟨apart, fun store => spared (spares_writeUnits hs slashless store),
    fun store => spared (spares_cleanUp hs slashless store)⟩

end Host

/-- The files of submissions do not collide.  A host keeps those of one submission apart from each other, writes every
unit to its own and takes away nothing else; the files of two submissions with different identifiers are apart, and
neither is harmed by what is done for the other; and units at different places have different stems, whatever they are
called. -/
theorem artifacts_apart {s t : Submission} (hs : s.Compiled) (ht : t.Compiled) (shaped : Identifier.Shaped s.id)
    (shaped' : Identifier.Shaped t.id) (c d : HostConfig) :
    Orderly c s ∧ (s.id ≠ t.id → Separate c s d t) ∧
    ∀ (i : Nat) u, s.units[i]? = some u → u.fileStem ≠ "" ∧
      (∀ x ∈ u.fileStem.toList, Text.isSlugChar x = true) ∧
      ∀ (j : Nat) v, t.units[j]? = some v → i ≠ j → u.fileStem ≠ v.fileStem := by
  refine ⟨orderly_of_stemmed c hs.stemmed shaped.slash_notMem,
    separate_of_stemmed c d hs.stemmed ht.stemmed shaped.slash_notMem shaped'.slash_notMem, fun i u hu => ?_⟩
  rw [hs.stemmed i u hu]
  refine ⟨Program.fileStem_ne_empty i u.name, fun x hx => Program.isSlugChar_of_mem_fileStem hx, fun j v hv hij h => ?_⟩
  rw [ht.stemmed j v hv] at h
  exact hij (Program.fileStem_inj h)

/-- A submission of units, with a stamp and this tag. -/
def filed (tag : Nat) (units : List CompiledUnit) : Submission :=
  ⟨Identifier.ofStamp "20240101T000000000" tag, units, .empty⟩

theorem shaped_filed (tag : Nat) (units : List CompiledUnit) : Identifier.Shaped (filed tag units).id :=
  Identifier.shaped_ofStamp (by decide) tag

theorem artifacts_apart_twins : ∃ s t : Submission, s.Compiled ∧ t.Compiled ∧ Identifier.Shaped s.id ∧
    Identifier.Shaped t.id ∧ s.id ≠ t.id ∧ Orderly .standard s ∧ Separate .standard s .standard t ∧
    ∃ u v, s.units[0]? = some u ∧ t.units[1]? = some v ∧ u.fileStem ≠ v.fileStem := by
  obtain ⟨p, hp, hlength⟩ : ∃ p, Program.compile RunnerReport.twins = .ok p ∧ p.units.length = 2 := ⟨_, rfl, rfl⟩
  have compiled (tag : Nat) : (filed tag p.units).Compiled := ⟨_, p, hp, rfl⟩
  have hids : (filed 1 p.units).id ≠ (filed 2 p.units).id := by
    show Identifier.ofStamp "20240101T000000000" 1 ≠ Identifier.ofStamp "20240101T000000000" 2
    decide
  have hu : p.units[0]? = some _ := List.getElem?_eq_getElem (by rw [hlength]; decide)
  have hv : p.units[1]? = some _ := List.getElem?_eq_getElem (by rw [hlength]; decide)
  obtain ⟨orderly, separate, stems⟩ := artifacts_apart (compiled 1) (compiled 2) (shaped_filed 1 p.units)
    (shaped_filed 2 p.units) .standard .standard
  exact ⟨_, _, compiled 1, compiled 2, shaped_filed 1 _, shaped_filed 2 _, hids, orderly, separate hids, _, _, hu, hv,
    (stems 0 _ hu).2.2 1 _ hv (by decide)⟩

/-- The settings of a host that keeps its files. -/
def keeping : HostConfig := { HostConfig.standard with workDir := "work", keepArtifacts := true }

/-- A store with the report of a submission, where a directory stands in the way of one of its units. -/
def blocked : Store :=
  ⟨[(["work"], .directory), (["work", "agentspec-20240101T000000000-0000002a-001_paris_forecast.test.ts"], .directory),
    (["work", "agentspec-20240101T000000000-0000002a-report.json"], .file .empty)]⟩

/-- A clean-up does not take away all files of a submission if they are to be kept, or if it fails before the last of
them. -/
theorem cleanUp_leaves : ∃ p, Program.compile RunnerReport.twins = .ok p ∧ Identifier.Shaped (filed 42 p.units).id ∧
    keeping.reportPath (filed 42 p.units) = "work/agentspec-20240101T000000000-0000002a-report.json" ∧
    blocked.hasFile [] "work/agentspec-20240101T000000000-0000002a-report.json" = true ∧
    cleanUp keeping (filed 42 p.units) blocked = (.ok (), blocked) ∧
    (cleanUp { keeping with keepArtifacts := false } (filed 42 p.units) blocked).1.isOk = false ∧
    (cleanUp { keeping with keepArtifacts := false } (filed 42 p.units) blocked).2.hasFile []
      "work/agentspec-20240101T000000000-0000002a-report.json" = true :=
  ⟨_, rfl, shaped_filed 42 _, by decide +kernel, by decide +kernel, cleanUp_of_keepArtifacts rfl _ _,
    by decide +kernel, by decide +kernel⟩

end Vitest

end AgentTrial
