import AgentTrial.Proofs.Host.Attribution
import AgentTrial.Proofs.Report.Verdict

/-!
# SilentPass — no unit passes by saying nothing

A file that the test runner says nothing about leaves an unknown unit, and so does a case with a status that nobody
knows.  Such a unit keeps every verdict from being the best one, so the best one says of every file that its cases have
passed.

* `Settled`: what is said about a file, and how its cases ended.
* `settled_of_block`: a block of good units is one of a settled file.
* `no_silent_pass`: what a success and a full pass rate say about the files of a submission.
-/

namespace AgentTrial

namespace Assertion

/-- The statuses of a case that was not tried. -/
def skips : List String := ["skipped", "pending", "todo", "disabled"]

variable {a : Assertion}

theorem status_of_pass (h : a.state = .pass) : a.status = "passed" := by
  by_contra hne
  rw [state, if_neg hne] at h
  split_ifs at h

theorem status_of_pass_or_skip (h : a.state = .pass ∨ a.state = .skip) : a.status = "passed" ∨ a.status ∈ skips := by
  rw [or_iff_not_imp_left]
  intro hne
  rw [state, if_neg hne] at h
  by_contra hno
  have hskip : ["skipped", "pending", "todo", "disabled"].contains a.status ≠ true := by
    rwa [ne_eq, List.contains_iff_mem]
  rw [if_neg hskip] at h
  split_ifs at h <;> simp at h

end Assertion

namespace RunnerReport

/-- The result that is taken for a file: the first one whose name ends with that of the file. -/
def Matched (r : RunnerReport) (file : String) (e : FileResult) : Prop :=
  ∃ before after, r.results = before ++ e :: after ∧ file.toList <:+ e.name.toList ∧
    ∀ b ∈ before, ¬ file.toList <:+ b.name.toList

/-- The result taken for a file has cases, and all of them ended in one of these ways. -/
def Settled (r : RunnerReport) (good : String → Prop) (file : String) : Prop :=
  ∃ e, r.Matched file e ∧ e.assertions ≠ [] ∧ ∀ a ∈ e.assertions, good a.status

/-- A file that the report leaves open. -/
inductive Unsettled (r : RunnerReport) (file : String) : Prop
  | missing (absent : ∀ e ∈ r.results, ¬ file.toList <:+ e.name.toList)
  | unloaded {e : FileResult} (taken : r.Matched file e) (bare : e.assertions = [])
  | unrecognized {e : FileResult} (taken : r.Matched file e) {a : Assertion} (mem : a ∈ e.assertions)
      (strange : a.status ≠ "passed" ∧ a.status ≠ "failed" ∧ a.status ∉ Assertion.skips)

section Files

variable {r : RunnerReport} {file : String} {e e' : FileResult} {good : String → Prop}

theorem matched_iff : r.Matched file e ↔ r.results.find? (·.isOf file) = some e := by
  have hnot : ∀ b : FileResult, (!b.isOf file) = true ↔ ¬ file.toList <:+ b.name.toList := by
    intro b
    rw [Bool.not_eq_true', ← Bool.not_eq_true, FileResult.isOf_iff]
  rw [List.find?_eq_some_iff_append, FileResult.isOf_iff]
  simp only [hnot]
  constructor
  · rintro ⟨before, after, hsplit, hown, hbefore⟩
    exact ⟨hown, before, after, hsplit, hbefore⟩
  · rintro ⟨hown, before, after, hsplit, hbefore⟩
    exact ⟨before, after, hsplit, hown, hbefore⟩

theorem Matched.unique (h : r.Matched file e) (h' : r.Matched file e') : e = e' := by
  rw [matched_iff] at h h'
  exact Option.some.inj (h.symm.trans h')

/-- A block of good units is one of a settled file: what stands in for missing cases is unknown, and never good. -/
theorem settled_of_block {name : String} {ok : HostState → Prop} (hunknown : ¬ ok .unknown)
    (hgood : ∀ a : Assertion, ok a.state → good a.status)
    (h : ∀ u ∈ block name (r.results.find? (·.isOf file)), ok u.state) : r.Settled good file := by
  cases hfind : r.results.find? (·.isOf file) with
  | none =>
    rw [hfind, block] at h
    exact absurd (h _ (List.mem_singleton_self _)) hunknown
  | some e =>
    rw [hfind, block] at h
    by_cases hbare : e.assertions.isEmpty = true
    · rw [if_pos hbare] at h
      exact absurd (h _ (List.mem_singleton_self _)) hunknown
    · rw [if_neg hbare] at h
      refine ⟨e, matched_iff.2 hfind, fun hnil => hbare (by rw [hnil]; rfl), fun a ha => ?_⟩
      exact hgood a (h _ (List.mem_map_of_mem ha))

/-- A settled file is not left open. -/
theorem Settled.not_unsettled (h : r.Settled (fun s => s = "passed" ∨ s ∈ Assertion.skips) file) :
    ¬ r.Unsettled file := by
  obtain ⟨e, taken, some, hgood⟩ := h
  rintro (absent | ⟨taken', bare⟩ | ⟨taken', mem, strange⟩)
  · obtain ⟨before, after, hsplit, hown, -⟩ := taken
    exact absent e (by simp [hsplit]) hown
  · rw [taken.unique taken'] at some
    exact some bare
  · rw [taken.unique taken'] at hgood
    rcases hgood _ mem with hp | hs
    · exact strange.1 hp
    · exact strange.2.2 hs

end Files

/-! ## Verdicts -/

section Verdicts

variable {r : RunnerReport} {files names : List String} {good : String → Prop}

/-- If all units of a submission are good, so is what the report says about every file of it. -/
theorem settled_of_units (same : files.length = names.length) (ok : HostState → Prop) (hunknown : ¬ ok .unknown)
    (hgood : ∀ a : Assertion, ok a.state → good a.status)
    (h : ∀ u ∈ (r.toHostReport (files.zip names)).units, ok u.state) : ∀ file ∈ files, r.Settled good file := by
  intro file hf
  obtain ⟨k, hk⟩ := List.getElem?_of_mem hf
  have hlt : k < names.length := same ▸ (List.getElem?_eq_some_iff.1 hk).1
  have hzip : (file, names[k]) ∈ files.zip names :=
    List.mem_of_getElem? (List.getElem?_zip_eq_some.2 ⟨hk, List.getElem?_eq_getElem hlt⟩)
  have hblock : block names[k] (r.results.find? (·.isOf file)) ∈ r.blocks (files.zip names) :=
    List.mem_map.2 ⟨_, hzip, rfl⟩
  exact settled_of_block hunknown hgood fun u hu => h u (List.mem_flatten.2 ⟨_, hblock, hu⟩)

/-- A unit that passed is a case of a result that is taken for a file. -/
theorem exists_passed (h : ∃ u ∈ (r.toHostReport (files.zip names)).units, u.state = .pass) :
    ∃ file ∈ files, ∃ e, r.Matched file e ∧ ∃ a ∈ e.assertions, a.status = "passed" := by
  obtain ⟨u, hu, hpass⟩ := h
  obtain ⟨units, hunits, hu⟩ := List.mem_flatten.1 hu
  obtain ⟨⟨file, name⟩, hzip, rfl⟩ := List.mem_map.1 hunits
  rcases told_or_unknown hu with ⟨e, hfind, a, ha, rfl⟩ | ⟨errors, rfl⟩
  · exact ⟨file, (List.of_mem_zip hzip).1, e, matched_iff.2 hfind, a, ha, Assertion.status_of_pass hpass⟩
  · cases hpass

end Verdicts

/-- What the verdicts on a submission say about its files, in numbers of which this is a hundred percent. -/
structure Vouched {α : Type} [Score α] (r : RunnerReport) (files : List String) (hr : HostReport) (percent : α) :
    Prop where
  /-- If skipped units count, a full pass rate is one of passed cases only. -/
  strict : (normalize hr .countAsFailure).meetsThreshold percent = true → ∀ file ∈ files, r.Settled (· = "passed") file
  /-- If they do not count, a full pass rate is one of passed and skipped cases, with a passed one among them. -/
  lenient : (normalize hr .exclude).meetsThreshold percent = true →
    (∀ file ∈ files, r.Settled (fun s => s = "passed" ∨ s ∈ Assertion.skips) file) ∧
      ∃ file ∈ files, ∃ e, r.Matched file e ∧ ∃ a ∈ e.assertions, a.status = "passed"
  /-- No run converges as long as a file is left open. -/
  kept : ∀ file ∈ files, r.Unsettled file → ∀ (stop : StopPolicy α), stop.minPassRate = percent →
    ∀ policy digest ms completed n, (LoopState.running completed).step stop
      { normalize hr policy with programDigest := digest, durationMs := ms } ≠ .converged n

section Vouching

variable {α : Type} [Score α] {r : RunnerReport} {files names : List String} {percent : α}

theorem vouched_of_discerns (same : files.length = names.length)
    (discerns : Count.Discerns percent (r.toHostReport (files.zip names)).units.length) :
    r.Vouched files (r.toHostReport (files.zip names)) percent := by
  have hstrict : (normalize (r.toHostReport (files.zip names)) .countAsFailure).meetsThreshold percent = true →
      ∀ file ∈ files, r.Settled (· = "passed") file := by
    intro full
    exact settled_of_units same (· = .pass) (by simp) (fun a => Assertion.status_of_pass)
      (ResultReport.pass_of_full discerns full)
  have hlenient : (normalize (r.toHostReport (files.zip names)) .exclude).meetsThreshold percent = true →
      ∀ file ∈ files, r.Settled (fun s => s = "passed" ∨ s ∈ Assertion.skips) file := by
    intro full
    exact settled_of_units same (fun s => s = .pass ∨ s = .skip) (by simp)
      (fun a => Assertion.status_of_pass_or_skip) (ResultReport.pass_or_skip_of_full discerns full).1
  refine ⟨hstrict, fun full => ⟨hlenient full, ?_⟩, ?_⟩
  · exact exists_passed (ResultReport.pass_or_skip_of_full discerns full).2
  · intro file hf unsettled stop hstop policy digest ms completed n hconverged
    have hfull := (LoopState.step_eq_converged_iff.1 hconverged).2
    rw [hstop] at hfull
    cases policy with
    | countAsFailure =>
      obtain ⟨e, taken, some, hpassed⟩ := hstrict hfull file hf
      exact Settled.not_unsettled ⟨e, taken, some, fun a ha => .inl (hpassed a ha)⟩ unsettled
    | exclude => exact (hlenient hfull file hf).not_unsettled unsettled

end Vouching

/-- No unit passes by saying nothing: whatever the test runner wrote, a success or a full pass rate vouches for every
file.  Doubles take two counts for one beyond the bound given here, which no memory holds; exact numbers need none. -/
theorem no_silent_pass {files names : List String} (same : files.length = names.length)
    {text : String} {hr : HostReport} (read : readHostReport text (files.zip names) = .ok hr) :
    ∃ r, Json.ofText fields.decode text = .ok r ∧
      ((normalize (α := Float) hr .countAsFailure).success = true → ∀ file ∈ files, r.Settled (· = "passed") file) ∧
      (hr.units.length * 100 < 2 ^ 59 → r.Vouched files hr (100 : Float)) ∧ r.Vouched files hr (100 : Rat) := by
  unfold readHostReport at read
  cases hread : Json.ofText fields.decode text with
  | error f => rw [hread] at read; cases read
  | ok r =>
    rw [hread] at read
    cases read
    refine ⟨r, rfl, fun success => ?_, fun bound => ?_, ?_⟩
    · exact settled_of_units same (· = .pass) (by simp) (fun a => Assertion.status_of_pass)
        (ResultReport.pass_of_success success)
    · exact vouched_of_discerns same (Count.discerns_float bound)
    · exact vouched_of_discerns same (Count.discerns_rat _)

/-- A report on three files in another order than that of the submission.  A case of one of them is skipped. -/
def clearText : String :=
  "\x7b\"success\":true,\"testResults\":[" ++
    "\x7b\"name\":\"/work/c.test.ts\",\"assertionResults\":[\x7b\"title\":\"c\",\"status\":\"passed\"\x7d]\x7d," ++
    "\x7b\"name\":\"/work/a.test.ts\",\"assertionResults\":[\x7b\"title\":\"a\",\"status\":\"passed\"\x7d," ++
    "\x7b\"title\":\"d\",\"status\":\"pending\"\x7d]\x7d," ++
    "\x7b\"name\":\"/work/b.test.ts\",\"assertionResults\":[\x7b\"title\":\"b\",\"status\":\"passed\"\x7d]\x7d]\x7d"

/-- The files of a submission. -/
def clearFiles : List String := ["a.test.ts", "b.test.ts", "c.test.ts"]

theorem read_clearText : ∃ hr, readHostReport clearText (clearFiles.zip ["a", "b", "c"]) = .ok hr ∧
    hr.units.length = 4 ∧ (normalize hr .exclude).meetsThreshold (100 : Float) = true ∧
    (normalize hr .countAsFailure).meetsThreshold (100 : Float) = false := by
  have hread : (readHostReport clearText (clearFiles.zip ["a", "b", "c"])).toOption.any (fun hr =>
      decide (hr.units.length = 4 ∧ (normalize hr .exclude).meetsThreshold (100 : Float) = true ∧
        (normalize hr .countAsFailure).meetsThreshold (100 : Float) = false)) = true := by
    decide +kernel
  cases h : readHostReport clearText (clearFiles.zip ["a", "b", "c"]) with
  | error f =>
    rw [h] at hread
    exact absurd hread Bool.false_ne_true
  | ok hr =>
    rw [h] at hread
    exact ⟨hr, rfl, of_decide_eq_true hread⟩

/-- With the skipped case left out the report vouches for every file; with it counted the pass rate is not full. -/
theorem no_silent_pass_clear : clearFiles.length = ["a", "b", "c"].length ∧
    ∃ (r : RunnerReport) (hr : HostReport), readHostReport clearText (clearFiles.zip ["a", "b", "c"]) = .ok hr ∧
      (normalize hr .exclude).meetsThreshold (100 : Float) = true ∧
      (normalize hr .countAsFailure).meetsThreshold (100 : Float) = false ∧
      r.Vouched clearFiles hr (100 : Float) ∧
      (∀ file ∈ clearFiles, r.Settled (fun s => s = "passed" ∨ s ∈ Assertion.skips) file) ∧
      ∃ file ∈ clearFiles, ∃ e, r.Matched file e ∧ ∃ a ∈ e.assertions, a.status = "passed" := by
  obtain ⟨hr, read, hlength, full, unmet⟩ := read_clearText
  have same : clearFiles.length = ["a", "b", "c"].length := rfl
  obtain ⟨r, -, -, hvouched, -⟩ := no_silent_pass same read
  have vouched := hvouched (by rw [hlength]; decide)
  obtain ⟨settled, passed⟩ := vouched.lenient full
  exact ⟨same, r, hr, read, full, unmet, vouched, settled, passed⟩

end RunnerReport

end AgentTrial
