import AgentTrial.Host.Artifact
import AgentTrial.Host.Identifier
import AgentTrial.Proofs.Program.Stem
import AgentTrial.Proofs.Store.Path
import Mathlib.Data.List.Nodup

/-!
# Artifact — the names of the files of a submission

The name of a file is the identifier of its submission between two dashes, and an end that has no dash.  So the last
dash tells where the identifier stops: two names are the same only if their identifiers and their ends are.

* `Identifier.Shaped`: identifiers as they are made of a stamp.
* `HostConfig.Tagged`: names with an identifier and an end; `Tagged.inj` tells them apart.
* `HostConfig.nodup_artifactFiles`, `HostConfig.id_eq_of_mem`: the files of one submission, and of two.
-/

namespace AgentTrial

namespace Identifier

/-- An identifier of letters and digits, a dash and eight hexadecimal digits. -/
def Shaped (id : String) : Prop := ∃ stamp digits : List Char, id.toList = stamp ++ '-' :: digits ∧
  (∀ c ∈ stamp, c.isAlphanum = true) ∧ digits.length = 8 ∧ ∀ c ∈ digits, ∃ n < 16, c = hexDigit n

theorem mem_hexDigits {width n : Nat} {c : Char} (h : c ∈ hexDigits width n) : ∃ n < 16, c = hexDigit n := by
  induction width generalizing n with
  | zero => cases h
  | succ width ih =>
    rcases List.mem_append.1 h with hfront | hlast
    · exact ih hfront
    · exact ⟨n % 16, Nat.mod_lt _ (by decide), List.mem_singleton.1 hlast⟩

theorem shaped_ofStamp {stamp : String} (h : stamp.toList.all Char.isAlphanum = true) (tag : Nat) :
    Shaped (ofStamp stamp tag) := by
  refine ⟨stamp.toList, hexDigits 8 tag, ?_, List.all_eq_true.1 h, length_hexDigits 8 tag, fun c hc => mem_hexDigits hc⟩
  simp [ofStamp]

theorem hexDigit_ne_slash : ∀ n < 16, '/' ≠ hexDigit n := by
  decide

theorem Shaped.slash_notMem {id : String} (h : Shaped id) : '/' ∉ id.toList := by
  obtain ⟨stamp, digits, hid, halnum, -, hdigits⟩ := h
  intro hslash
  rw [hid] at hslash
  rcases List.mem_append.1 hslash with hstamp | hrest
  · exact absurd (halnum _ hstamp) (by decide)
  · rcases List.mem_cons.1 hrest with hdash | hdigit
    · exact absurd hdash (by decide)
    · obtain ⟨n, hn, heq⟩ := hdigits _ hdigit
      exact hexDigit_ne_slash n hn heq

end Identifier

/-- The units of a submission are those of a compiled specification. -/
def Submission.Compiled (s : Submission) : Prop :=
  ∃ spec p, Program.compile spec = .ok p ∧ s.units = p.units

namespace HostConfig

/-- The names of the files of all units. -/
def unitFiles (s : Submission) : List String := (List.range s.units.length).map (unitFile s)

/-- The name of the file of the report. -/
def reportFile (s : Submission) : String := "agentspec-" ++ s.id ++ "-report.json"

/-- The names of all files of a submission. -/
def artifactFiles (s : Submission) : List String := unitFiles s ++ [reportFile s]

/-- The paths of all files of a submission. -/
def artifacts (c : HostConfig) (s : Submission) : List String := c.unitPaths s ++ [c.reportPath s]

/-- The units of a submission have the stems that they were compiled with. -/
def Stemmed (s : Submission) : Prop := ∀ k u, s.units[k]? = some u → u.fileStem = Program.fileStem k u.name

/-- A name with an identifier, and with this end after a dash. -/
structure Tagged (id name : String) (tail : List Char) : Prop where
  eq : name.toList = ("agentspec-" ++ id).toList ++ '-' :: tail
  dash : '-' ∉ tail
  slash : '/' ∉ tail

section Tagged

variable {id id' name : String} {tail tail' : List Char}

/-- The last dash tells the identifier from the end. -/
theorem Tagged.inj (h : Tagged id name tail) (h' : Tagged id' name tail') : id = id' ∧ tail = tail' := by
  obtain ⟨hfront, htail⟩ := Text.append_cons_inj_last h.dash h'.dash (h.eq.symm.trans h'.eq)
  exact ⟨(String.append_right_inj _).1 (String.toList_inj.1 hfront), htail⟩

theorem Tagged.head (h : Tagged id name tail) : name.toList.head? = some 'a' := by
  rw [h.eq, String.toList_append]
  rfl

theorem Tagged.isName (h : Tagged id name tail) (slashless : '/' ∉ id.toList) : Path.IsName name := by
  have hhead := h.head
  refine ⟨fun hslash => ?_, ?_, ?_, ?_⟩
  · rw [h.eq, String.toList_append] at hslash
    simp only [List.mem_append, List.mem_cons] at hslash
    rcases hslash with (hfront | hid) | hdash | htail
    · exact absurd hfront (by decide)
    · exact slashless hid
    · exact absurd hdash (by decide)
    · exact h.slash htail
  all_goals
    rintro rfl
    exact absurd hhead (by decide)

end Tagged

variable {s t : Submission} {name : String}

theorem tagged_unitFile (stemmed : Stemmed s) {k : Nat} (hk : k < s.units.length) : ∃ u, s.units[k]? = some u ∧
    Tagged s.id (unitFile s k) ((Program.fileStem k u.name).toList ++ ".test.ts".toList) := by
  have hu : s.units[k]? = some s.units[k] := List.getElem?_eq_getElem hk
  have other (c : Char) (hc : Text.isSlugChar c = false) (hend : c ∉ ".test.ts".toList) :
      c ∉ (Program.fileStem k s.units[k].name).toList ++ ".test.ts".toList := by
    intro h
    rcases List.mem_append.1 h with hstem | hmem
    · exact absurd (Program.isSlugChar_of_mem_fileStem hstem) (by simp [hc])
    · exact hend hmem
  refine ⟨s.units[k], hu, ?_, other '-' (by decide) (by decide), other '/' (by decide) (by decide)⟩
  rw [unitFile, hu, ← stemmed k _ hu]
  simp

theorem tagged_reportFile (s : Submission) : Tagged s.id (reportFile s) "report.json".toList := by
  refine ⟨?_, by decide, by decide⟩
  rw [reportFile]
  simp

theorem tagged_of_mem (stemmed : Stemmed s) (h : name ∈ artifactFiles s) : ∃ tail, Tagged s.id name tail := by
  rcases List.mem_append.1 h with hunit | hreport
  · obtain ⟨k, hk, rfl⟩ := List.mem_map.1 hunit
    obtain ⟨u, -, tagged⟩ := tagged_unitFile stemmed (List.mem_range.1 hk)
    exact ⟨_, tagged⟩
  · rw [List.mem_singleton.1 hreport]
    exact ⟨_, tagged_reportFile s⟩

theorem isName_of_mem (stemmed : Stemmed s) (slashless : '/' ∉ s.id.toList) : ∀ name ∈ artifactFiles s,
    Path.IsName name := by
  intro name h
  obtain ⟨tail, tagged⟩ := tagged_of_mem stemmed h
  exact tagged.isName slashless

/-- No file has the name of something that is always there. -/
theorem notMem_fixed_of_mem (stemmed : Stemmed s) (h : name ∈ artifactFiles s) :
    name ∉ "/" :: "dev" :: Device.table.map Prod.fst := by
  obtain ⟨tail, tagged⟩ := tagged_of_mem stemmed h
  have hhead := tagged.head
  intro hmem
  have heads : ∀ other ∈ "/" :: "dev" :: Device.table.map Prod.fst, other.toList.head? ≠ some 'a' := by decide
  exact heads name hmem hhead

/-- No file of a submission ends with the name of another one. -/
theorem eq_of_suffix_unitFile (stemmed : Stemmed s) {k j : Nat} (hk : k < s.units.length) (hj : j < s.units.length)
    (h : (unitFile s k).toList <:+ (unitFile s j).toList) : k = j := by
  obtain ⟨u, -, hu⟩ := tagged_unitFile stemmed hk
  obtain ⟨v, -, hv⟩ := tagged_unitFile stemmed hj
  rw [hu.eq, hv.eq] at h
  have hends := Text.eq_of_suffix_cons hu.dash hv.dash h
  have hstems := List.append_cancel_right hends
  exact Program.fileStem_inj (String.toList_inj.1 hstems)

theorem nodup_unitFiles (stemmed : Stemmed s) : (unitFiles s).Nodup := by
  refine List.Nodup.map_on (fun k hk j hj h => ?_) List.nodup_range
  exact eq_of_suffix_unitFile stemmed (List.mem_range.1 hk) (List.mem_range.1 hj) (h ▸ List.suffix_rfl)

/-- The files of a submission have different names. -/
theorem nodup_artifactFiles (stemmed : Stemmed s) : (artifactFiles s).Nodup := by
  refine List.nodup_append.2 ⟨nodup_unitFiles stemmed, List.nodup_singleton _, fun name hname name' hname' h => ?_⟩
  obtain ⟨k, hk, rfl⟩ := List.mem_map.1 hname
  obtain ⟨u, -, tagged⟩ := tagged_unitFile stemmed (List.mem_range.1 hk)
  rw [h, List.mem_singleton.1 hname'] at tagged
  -- the ends are told apart by their last characters
  have hlast := congrArg List.getLast? (tagged.inj (tagged_reportFile s)).2
  have hunit : ".test.ts".toList.getLast? = some 's' := by decide
  have hreport : "report.json".toList.getLast? = some 'n' := by decide
  rw [List.getLast?_append, hunit, hreport, Option.some_or, Option.some.injEq] at hlast
  exact absurd hlast (by decide)

/-- Submissions that have a name in common have the same identifier. -/
theorem id_eq_of_mem (hs : Stemmed s) (ht : Stemmed t) (h : name ∈ artifactFiles s) (h' : name ∈ artifactFiles t) :
    s.id = t.id := by
  obtain ⟨tail, tagged⟩ := tagged_of_mem hs h
  obtain ⟨tail', tagged'⟩ := tagged_of_mem ht h'
  exact (tagged.inj tagged').1

theorem artifacts_eq (c : HostConfig) (s : Submission) :
    c.artifacts s = (artifactFiles s).map (Path.join c.workDir) := by
  rw [artifacts, artifactFiles, List.map_append, unitFiles, List.map_map]
  rfl

end HostConfig

theorem Submission.Compiled.stemmed {s : Submission} (h : s.Compiled) : HostConfig.Stemmed s := by
  obtain ⟨spec, p, compiled, hunits⟩ := h
  intro k u hu
  exact Program.fileStem_of_compile compiled (hunits ▸ hu)

end AgentTrial
