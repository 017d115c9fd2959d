import AgentTrial.Host.Artifact
import AgentTrial.Proofs.Store.Path
import AgentTrial.Proofs.Text.Mark
import AgentTrial.Proofs.Text.Replace

/-!
# Expansion — the paths in a command line

An argument of a command line is a template with holes for the unit files and for the report.  `fillHoles` fills them
in one pass from the left, so that what is put in is not read again.  A command line is made in two passes, the files
first, and the second pass reads the paths that the first one put in.

* `expandArgument_eq_iff`: both give the same argument exactly when the paths make no hole for the report.
* `keepsReport_of_braceless`: paths without a closing brace make none.
* `commandLine_expanded`: a command line as its template says, with every file in it.
* `commandLine_rereads`: a directory whose name has a hole for the report.
-/

namespace AgentTrial.HostConfig

open Text

theorem filesHole_eq : filesHole.toList = '{' :: ['f', 'i', 'l', 'e', 's', '}'] := by decide

theorem reportHole_eq : reportHole.toList = '{' :: ['r', 'e', 'p', 'o', 'r', 't', '}'] := by decide

theorem length_lt_hole {hole : List Char} (h : 0 < hole.length) (r : List Char) : r.length < (hole ++ r).length := by
  rw [List.length_append]
  exact Nat.lt_add_of_pos_left h

/-- An argument with the texts in the places of its holes, in one pass from the left. -/
def fillHoles (files report : List Char) : List Char → List Char
  | [] => []
  | c :: s =>
    match _hf : after? filesHole.toList (c :: s) with
    | some r => files ++ fillHoles files report r
    | none =>
      match _hr : after? reportHole.toList (c :: s) with
      | some r => report ++ fillHoles files report r
      | none => c :: fillHoles files report s
termination_by s => s.length
decreasing_by
  · rw [after?_some _hf]
    exact length_lt_hole (by decide) r
  · rw [after?_some _hr]
    exact length_lt_hole (by decide) r
  · exact Nat.lt_succ_self _

/-- The arguments that an argument of the settings stands for: the paths of the files for the files alone, else one
text. -/
def expansion (files : List String) (report arg : String) : List String :=
  if arg = filesHole then files
  else [.ofList (fillHoles (" ".intercalate files).toList report.toList arg.toList)]

/-- The files make no hole for the report where they are put into an argument. -/
def KeepsReport (files : List String) (arg : String) : Prop :=
  occurrences reportHole.toList (replace filesHole.toList (" ".intercalate files).toList arg.toList) =
    occurrences reportHole.toList arg.toList

instance (files : List String) (arg : String) : Decidable (KeepsReport files arg) :=
  inferInstanceAs (Decidable (_ = _))

/-! ## Holes -/

section Holes

variable {s : List Char} {c : Char} (files report : List Char)

theorem not_files_of_report (s : List Char) : ¬ filesHole.toList <+: reportHole.toList ++ s := by
  rw [filesHole_eq, reportHole_eq]
  simp

theorem not_report_of_files (s : List Char) : ¬ reportHole.toList <+: filesHole.toList ++ s := by
  rw [filesHole_eq, reportHole_eq]
  simp

/-- A text is empty, or it goes on with a hole or with a character that opens none. -/
@[elab_as_elim]
theorem holes_induction {motive : List Char → Prop} (nil : motive [])
    (files : ∀ s, motive s → motive (filesHole.toList ++ s))
    (report : ∀ s, motive s → motive (reportHole.toList ++ s))
    (other : ∀ c s, ¬ filesHole.toList <+: c :: s → ¬ reportHole.toList <+: c :: s → motive s → motive (c :: s))
    (s : List Char) : motive s := by
  induction hn : s.length using Nat.strong_induction_on generalizing s with
  | h n ih =>
    subst hn
    cases s with
    | nil => exact nil
    | cons c s =>
      by_cases hfiles : filesHole.toList <+: c :: s
      · obtain ⟨r, hr⟩ := hfiles
        rw [← hr] at ih ⊢
        exact files r (ih r.length (length_lt_hole (by decide) r) r rfl)
      · by_cases hreport : reportHole.toList <+: c :: s
        · obtain ⟨r, hr⟩ := hreport
          rw [← hr] at ih ⊢
          exact report r (ih r.length (length_lt_hole (by decide) r) r rfl)
        · exact other c s hfiles hreport (ih s.length (Nat.lt_succ_self _) s rfl)

/-! ### One pass -/

theorem fillHoles_nil : fillHoles files report [] = [] := by rw [fillHoles]

theorem fillHoles_files (s : List Char) :
    fillHoles files report (filesHole.toList ++ s) = files ++ fillHoles files report s := by
  have hafter := after?_append filesHole.toList s
  cases ht : filesHole.toList ++ s with
  | nil => simp [filesHole_eq] at ht
  | cons c t =>
    rw [ht] at hafter
    rw [fillHoles]
    split <;> simp_all

theorem fillHoles_report (s : List Char) :
    fillHoles files report (reportHole.toList ++ s) = report ++ fillHoles files report s := by
  have hafter := after?_append reportHole.toList s
  have hfiles : after? filesHole.toList (reportHole.toList ++ s) = none := after?_of_not_starts (not_files_of_report s)
  cases ht : reportHole.toList ++ s with
  | nil => simp [reportHole_eq] at ht
  | cons c t =>
    rw [ht] at hafter hfiles
    rw [fillHoles]
    split
    · simp_all
    · split <;> simp_all

theorem fillHoles_cons (hfiles : ¬ filesHole.toList <+: c :: s) (hreport : ¬ reportHole.toList <+: c :: s) :
    fillHoles files report (c :: s) = c :: fillHoles files report s := by
  have hfiles' := after?_of_not_starts hfiles
  have hreport' := after?_of_not_starts hreport
  rw [fillHoles]
  split
  · simp_all
  · split <;> simp_all

/-! ### The pass for the files -/

theorem replace_files_nil : replace filesHole.toList files [] = [] := replace_of_none rfl files

theorem replace_files (s : List Char) : replace filesHole.toList files (filesHole.toList ++ s) =
    files ++ replace filesHole.toList files s := by
  rw [filesHole_eq]
  exact replace_append_mark (b := []) (by decide) rfl files s

theorem replace_files_report (s : List Char) : replace filesHole.toList files (reportHole.toList ++ s) =
    reportHole.toList ++ replace filesHole.toList files s := by
  have hstart := not_files_of_report s
  rw [reportHole_eq, List.cons_append] at hstart ⊢
  rw [replace_cons_of_not_starts hstart, filesHole_eq, replace_append_of_notMem (by decide)]
  rfl

theorem occurrences_files (s : List Char) :
    occurrences reportHole.toList (filesHole.toList ++ s) = occurrences reportHole.toList s := by
  have hstart := not_report_of_files s
  rw [filesHole_eq, List.cons_append] at hstart ⊢
  rw [occurrences_cons, if_neg hstart, reportHole_eq, occurrences_append_of_notMem (by decide), Nat.add_zero]

theorem occurrences_report (l s : List Char) : occurrences reportHole.toList (l ++ reportHole.toList ++ s) =
    occurrences reportHole.toList l + 1 + occurrences reportHole.toList s := by
  rw [reportHole_eq]
  exact occurrences_append_mark (by decide) l s

theorem occurrences_other (h : ¬ reportHole.toList <+: c :: s) :
    occurrences reportHole.toList (c :: s) = occurrences reportHole.toList s := by
  rw [occurrences_cons, if_neg h, Nat.add_zero]

/-! ## Two passes -/

/-- No hole for the report is lost by putting the files in. -/
theorem occurrences_le (a s : List Char) : occurrences reportHole.toList s ≤
    occurrences reportHole.toList (a ++ replace filesHole.toList files s) := by
  induction s using holes_induction generalizing a with
  | nil => exact Nat.zero_le _
  | files s ih =>
    rw [occurrences_files, replace_files, ← List.append_assoc]
    exact ih _
  | report s ih =>
    have hrest := ih []
    have hreport := occurrences_report [] s
    rw [List.nil_append] at hrest hreport
    rw [hreport, replace_files_report, ← List.append_assoc, occurrences_report]
    have hnil : occurrences reportHole.toList [] = 0 := rfl
    omega
  | other c s hfiles hreport ih =>
    have hrest := ih (a ++ [c])
    rw [occurrences_other hreport, replace_cons_of_not_starts hfiles]
    rwa [List.append_assoc, List.singleton_append] at hrest

/-- Where the files make no hole for the report, with what stands before them, the second pass fills in those of the
template. -/
theorem replace_of_kept {a s : List Char} (kept : occurrences reportHole.toList (a ++ replace filesHole.toList files s) =
    occurrences reportHole.toList s) : replace reportHole.toList report (a ++ replace filesHole.toList files s) =
      a ++ fillHoles files report s := by
  -- `a` is what the first pass has put out so far; a hole may begin in it and end behind it
  induction s using holes_induction generalizing a with
  | nil =>
    rw [replace_files_nil, List.append_nil] at kept ⊢
    rw [replace_of_none kept, fillHoles_nil, List.append_nil]
  | files s ih =>
    rw [occurrences_files, replace_files, ← List.append_assoc] at kept
    rw [replace_files, fillHoles_files, ← List.append_assoc, ih kept, List.append_assoc]
  | report s ih =>
    have hrest := occurrences_le files [] s
    have hreport := occurrences_report [] s
    have hnil : occurrences reportHole.toList [] = 0 := rfl
    rw [List.nil_append] at hrest hreport
    rw [hreport, replace_files_report, ← List.append_assoc, occurrences_report] at kept
    have ha : occurrences reportHole.toList a = 0 := by omega
    have hs := ih (a := []) (by rw [List.nil_append]; omega)
    rw [List.nil_append, List.nil_append] at hs
    rw [replace_files_report, fillHoles_report, ← hs, ← List.append_assoc, ← List.append_assoc]
    rw [reportHole_eq] at ha ⊢
    exact replace_append_mark (by decide) ha report _
  | other c s hfiles hreport ih =>
    rw [occurrences_other hreport, replace_cons_of_not_starts hfiles, ← List.singleton_append, ← List.append_assoc] at kept
    rw [replace_cons_of_not_starts hfiles, fillHoles_cons files report hfiles hreport, ← List.singleton_append,
      ← List.append_assoc, ih kept, List.append_assoc]
    rfl

/-- What the holes of the template take and give in one pass. -/
theorem length_fillHoles (s : List Char) :
    (fillHoles files report s).length + occurrences reportHole.toList s * 8 =
      (replace filesHole.toList files s).length + occurrences reportHole.toList s * report.length := by
  induction s using holes_induction with
  | nil =>
    rw [fillHoles_nil, replace_files_nil, occurrences_nil (by decide), Nat.zero_mul, Nat.zero_mul]
  | files s ih =>
    rw [occurrences_files, fillHoles_files, replace_files, List.length_append, List.length_append]
    omega
  | report s ih =>
    have hreport := occurrences_report [] s
    have hnil : occurrences reportHole.toList [] = 0 := rfl
    have hlength : reportHole.toList.length = 8 := rfl
    rw [List.nil_append] at hreport
    rw [hreport, fillHoles_report, replace_files_report, hnil, List.length_append, List.length_append, hlength]
    simp only [Nat.add_mul, Nat.zero_add, Nat.one_mul]
    omega
  | other c s hfiles hreport ih =>
    rw [occurrences_other hreport, fillHoles_cons files report hfiles hreport, replace_cons_of_not_starts hfiles,
      List.length_cons, List.length_cons]
    omega

theorem length_replace_report (s : List Char) :
    (replace reportHole.toList report s).length + occurrences reportHole.toList s * 8 =
      s.length + occurrences reportHole.toList s * report.length := by
  rw [reportHole_eq]
  exact length_replace (by decide) report s

theorem infix_fillHoles (h : occurrences filesHole.toList s ≠ 0) : files <:+: fillHoles files report s := by
  induction s using holes_induction with
  | nil => exact absurd (occurrences_nil (by decide)) h
  | files s ih =>
    rw [fillHoles_files]
    exact (List.prefix_append files _).isInfix
  | report s ih =>
    have hstart := not_files_of_report s
    rw [reportHole_eq, List.cons_append] at h hstart
    rw [occurrences_cons, if_neg hstart, filesHole_eq, occurrences_append_of_notMem (by decide), ← filesHole_eq] at h
    rw [fillHoles_report]
    exact (ih h).trans (List.suffix_append report _).isInfix
  | other c s hfiles hreport ih =>
    rw [occurrences_cons, if_neg hfiles] at h
    rw [fillHoles_cons files report hfiles hreport]
    exact (ih h).trans (List.suffix_cons c _).isInfix

/-- Files without a closing brace make no hole when what they end with stands in none, whatever is before them. -/
theorem occurrences_replace_of_braceless {v : List Char} {d : Char} (hv : '}' ∉ v) (hd : d ∉ reportHole.toList)
    (a s : List Char) : occurrences reportHole.toList (a ++ replace filesHole.toList (v ++ [d]) s) =
      occurrences reportHole.toList (a ++ s) := by
  have value {v : List Char} {d : Char} (hv : '}' ∉ v) (hd : d ∉ reportHole.toList) (a r : List Char) :
      occurrences reportHole.toList (a ++ (v ++ [d]) ++ r) =
        occurrences reportHole.toList a + occurrences reportHole.toList r :=
    occurrences_append_value (p := ['{', 'r', 'e', 'p', 'o', 'r', 't']) hv hd a r
  induction s using holes_induction generalizing a with
  | nil => rw [replace_files_nil]
  | files s ih =>
    -- the hole itself is cut in two by a letter that the other hole does not have
    have hhole : occurrences reportHole.toList (a ++ filesHole.toList ++ s) =
        occurrences reportHole.toList a + occurrences reportHole.toList s := by
      have hfront := value (v := ['{']) (d := 'f') (by decide) (by decide) a (['i', 'l', 'e', 's', '}'] ++ s)
      have hback : occurrences reportHole.toList (['i', 'l', 'e', 's', '}'] ++ s) = occurrences reportHole.toList s := by
        rw [reportHole_eq]
        exact occurrences_append_of_notMem (by decide) s
      rw [hback] at hfront
      rw [← hfront, filesHole_eq]
      simp
    have hrest := ih []
    rw [List.nil_append, List.nil_append] at hrest
    rw [replace_files, ← List.append_assoc, value hv hd, hrest, ← List.append_assoc, hhole]
  | report s ih =>
    have hrest := ih []
    rw [List.nil_append, List.nil_append] at hrest
    rw [replace_files_report, ← List.append_assoc, ← List.append_assoc, occurrences_report, occurrences_report, hrest]
  | other c s hfiles hreport ih =>
    have hrest := ih (a ++ [c])
    rw [List.append_assoc, List.append_assoc] at hrest
    rw [replace_cons_of_not_starts hfiles]
    exact hrest

end Holes

/-! ## Arguments -/

section Arguments

variable {files : List String} {report arg : String}

theorem expandArgument_of_ne (h : arg ≠ filesHole) : expandArgument files report arg =
    [.ofList (replace reportHole.toList report.toList
      (replace filesHole.toList (" ".intercalate files).toList arg.toList))] := by
  rw [expandArgument, if_neg h, replaceAll, replaceAll, String.toList_ofList]

theorem expansion_of_ne (h : arg ≠ filesHole) : expansion files report arg =
    [.ofList (fillHoles (" ".intercalate files).toList report.toList arg.toList)] := if_neg h

theorem length_expandArgument (files : List String) (report arg : String) :
    (expandArgument files report arg).length = (expansion files report arg).length := by
  unfold expandArgument expansion
  split_ifs
  · rfl
  · rfl

/-- An argument is expanded as its template says exactly when the files make no hole for the report, if the path of
the report is longer than the hole for it. -/
theorem expandArgument_eq_iff (long : reportHole.length < report.length) :
    expandArgument files report arg = expansion files report arg ↔ arg = filesHole ∨ KeepsReport files arg := by
  by_cases hexact : arg = filesHole
  · subst hexact
    simp [expandArgument, expansion]
  rw [expandArgument_of_ne hexact, expansion_of_ne hexact, List.singleton_inj, String.ofList_inj]
  simp only [hexact, false_or]
  constructor
  · -- every hole that the files make lengthens the argument
    intro heq
    have hle := occurrences_le (" ".intercalate files).toList [] arg.toList
    have hfill := length_fillHoles (" ".intercalate files).toList report.toList arg.toList
    have hreplace := length_replace_report report.toList
      (replace filesHole.toList (" ".intercalate files).toList arg.toList)
    rw [heq] at hreplace
    rw [List.nil_append] at hle
    obtain ⟨e, he⟩ : ∃ e, report.toList.length = 8 + (e + 1) := ⟨report.toList.length - 9, by
      have hhole : reportHole.length = 8 := by decide
      rw [String.length_toList]
      omega⟩
    rw [he, Nat.mul_add] at hfill hreplace
    refine Nat.eq_of_mul_eq_mul_right (show 0 < e + 1 by omega) ?_
    omega
  · intro kept
    exact replace_of_kept _ report.toList (a := []) kept

/-- Files that have no closing brace and end with a character that the hole does not have make none. -/
theorem keepsReport_of_braceless {d : Char} (hne : files ≠ []) (braceless : ∀ f ∈ files, '}' ∉ f.toList)
    (hd : d ∉ reportHole.toList) (hlast : ∀ f ∈ files, [d] <:+ f.toList) (arg : String) : KeepsReport files arg := by
  have hjoined : (" ".intercalate files).toList = [' '].intercalate (files.map String.toList) :=
    String.toList_intercalate
  obtain ⟨v, hv⟩ : [d] <:+ (" ".intercalate files).toList := by
    rw [hjoined]
    exact suffix_intercalate (by simpa using hne) (by simpa using hlast)
  have hbrace : '}' ∉ (" ".intercalate files).toList := by
    rw [hjoined]
    intro hmem
    rcases mem_of_mem_intercalate hmem with hspace | ⟨w, hw, hmem⟩
    · exact absurd hspace (by decide)
    · obtain ⟨f, hf, rfl⟩ := List.mem_map.1 hw
      exact braceless f hf hmem
  rw [← hv] at hbrace
  rw [KeepsReport, ← hv]
  exact occurrences_replace_of_braceless (fun h => hbrace (List.mem_append_left _ h)) hd [] arg.toList

/-- A file is found in what a template with a hole for it stands for. -/
theorem exists_infix_expansion (report : String) (hole : occurrences filesHole.toList arg.toList ≠ 0) {f : String}
    (hf : f ∈ files) : ∃ a ∈ expansion files report arg, f.toList <:+: a.toList := by
  by_cases hexact : arg = filesHole
  · rw [expansion, if_pos hexact]
    exact ⟨f, hf, List.infix_rfl⟩
  · refine ⟨_, by rw [expansion_of_ne hexact]; exact List.mem_cons_self, ?_⟩
    have hjoined : f.toList <:+: (" ".intercalate files).toList := by
      rw [String.toList_intercalate]
      exact infix_intercalate (List.mem_map_of_mem hf)
    rw [String.toList_ofList]
    exact hjoined.trans (infix_fillHoles _ _ hole)

end Arguments

/-! ## Command lines -/

theorem flatMap_eq_iff_of_length {α β : Type} {f g : α → List β} (h : ∀ x, (f x).length = (g x).length) (l : List α) :
    l.flatMap f = l.flatMap g ↔ ∀ x ∈ l, f x = g x := by
  induction l with
  | nil => simp
  | cons x l ih =>
    rw [List.flatMap_cons, List.flatMap_cons, List.forall_mem_cons, ← ih]
    constructor
    · exact fun heq => List.append_inj heq (h x)
    · rintro ⟨hx, hl⟩
      rw [hx, hl]

/-- What is accepted has a template with a hole for the files. -/
theorem exists_hole_of_check {c : EngineConfig} (accepted : c.check = .ok ()) :
    ∃ arg ∈ c.host.command, occurrences filesHole.toList arg.toList ≠ 0 := by
  unfold EngineConfig.check at accepted
  split_ifs at accepted with hempty hhole hprovider
  rw [Bool.not_eq_true', Bool.not_eq_false, List.any_eq_true] at hhole
  obtain ⟨arg, hmem, hoccurs⟩ := hhole
  exact ⟨arg, hmem, occurs_iff.1 hoccurs⟩

theorem length_reportHole_lt (c : HostConfig) (s : Submission) : reportHole.length < (c.reportPath s).length := by
  have hlength := (Path.suffix_join c.workDir ("agentspec-" ++ s.id ++ "-report.json")).length_le
  have hhole : reportHole.length = 8 := by decide
  have hfront : "agentspec-".length = 10 := by decide
  have hback : "-report.json".length = 12 := by decide
  simp only [String.length_toList, String.length_append] at hlength
  rw [reportPath]
  omega

theorem suffix_of_mem_unitPaths {c : HostConfig} {s : Submission} {path : String} (h : path ∈ c.unitPaths s) :
    ['s'] <:+ path.toList := by
  obtain ⟨k, -, rfl⟩ := List.mem_map.1 h
  have hname : ['s'] <:+ (unitFile s k).toList := by
    rw [unitFile, String.toList_append]
    exact List.IsSuffix.trans (by decide) (List.suffix_append _ ".test.ts".toList)
  exact hname.trans (Path.suffix_join c.workDir _)

/-- A command line has the paths in the places of the holes, and nothing else in it is replaced, exactly when the files
make no hole for the report.  Then every file is found in it; and files without a closing brace never make one. -/
theorem commandLine_expanded (c : EngineConfig) (accepted : c.check = .ok ()) (s : Submission) :
    (c.host.commandLine s = c.host.command.flatMap (expansion (c.host.unitPaths s) (c.host.reportPath s)) ↔
      ∀ arg ∈ c.host.command, arg = filesHole ∨ KeepsReport (c.host.unitPaths s) arg) ∧
    ((∀ arg ∈ c.host.command, arg = filesHole ∨ KeepsReport (c.host.unitPaths s) arg) →
      ∀ path ∈ c.host.unitPaths s, ∃ arg ∈ c.host.commandLine s, path.toList <:+: arg.toList) ∧
    (s.units ≠ [] → (∀ path ∈ c.host.unitPaths s, '}' ∉ path.toList) →
      ∀ arg, KeepsReport (c.host.unitPaths s) arg) := by
  have hiff : c.host.commandLine s =
      c.host.command.flatMap (expansion (c.host.unitPaths s) (c.host.reportPath s)) ↔
        ∀ arg ∈ c.host.command, arg = filesHole ∨ KeepsReport (c.host.unitPaths s) arg := by
    rw [commandLine, flatMap_eq_iff_of_length (length_expandArgument _ _)]
    simp only [expandArgument_eq_iff (length_reportHole_lt c.host s)]
  refine ⟨hiff, fun kept path hpath => ?_, fun hunits braceless arg => ?_⟩
  · obtain ⟨arg, harg, hole⟩ := exists_hole_of_check accepted
    obtain ⟨a, ha, hinfix⟩ := exists_infix_expansion (c.host.reportPath s) hole hpath
    rw [hiff.2 kept]
    exact ⟨a, List.mem_flatMap_of_mem harg ha, hinfix⟩
  · have hne : c.host.unitPaths s ≠ [] := by
      simpa [unitPaths] using hunits
    exact keepsReport_of_braceless hne braceless (by decide) (fun _ => suffix_of_mem_unitPaths) arg

/-- A submission of one unit. -/
def single : Submission := ⟨"1", [⟨"warm", "001_warm", ""⟩], default⟩

theorem commandLine_expanded_single : EngineConfig.standard.check = .ok () ∧
    HostConfig.standard.commandLine single = HostConfig.standard.command.flatMap
      (expansion [".agentspec/agentspec-1-001_warm.test.ts"] ".agentspec/agentspec-1-report.json") := by
  have haccepted : EngineConfig.standard.check = .ok () := by decide +kernel
  have hpaths : HostConfig.standard.unitPaths single = [".agentspec/agentspec-1-001_warm.test.ts"] := by decide +kernel
  obtain ⟨hiff, -, hkept⟩ := commandLine_expanded .standard haccepted single
  have kept := hkept (by decide) (by decide +kernel)
  refine ⟨haccepted, ?_⟩
  rw [← hpaths]
  exact hiff.2 fun arg _ => .inr (kept arg)

/-- Settings with the hole for the report in the name of the directory. -/
def holed : EngineConfig where
  skipPolicy := default
  host := ⟨["run", "--files=" ++ filesHole], reportHole, 600, false⟩
  provider := .standard

example : holed.host.commandLine single = ["run",
    "--files=\x7breport\x7d/agentspec-1-report.json/agentspec-1-001_warm.test.ts"] := by decide +kernel

theorem commandLine_rereads : holed.check = .ok () ∧
    holed.host.commandLine single ≠
      holed.host.command.flatMap (expansion (holed.host.unitPaths single) (holed.host.reportPath single)) ∧
    ∃ path ∈ holed.host.unitPaths single, ∀ arg ∈ holed.host.commandLine single, ¬ path.toList <:+: arg.toList := by
  decide +kernel

end AgentTrial.HostConfig
