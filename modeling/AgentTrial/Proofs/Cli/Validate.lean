import AgentTrial.Cli.Run
import AgentTrial.Proofs.Program.Reference

/-!
# Validate — the command that looks for problems

* `Specification.load_eq_ok_iff`: what is accepted where a specification is loaded.
* `validate_result`: what comes of the command.
* `checkers_agree`: what is valid compiles, so the command accepts what is accepted there.
-/

namespace AgentTrial

namespace Specification

variable {s : Specification}

theorem ofValidText_eq_ok_iff {f : DocumentFormat} {text : String} : ofValidText f text = .ok s ↔
    ofText f text = .ok s ∧ s.problems = [] := by
  unfold ofValidText
  cases ofText f text with
  | error c => simp
  | ok t =>
    dsimp only
    cases hv : t.validate with
    | error p =>
      refine ⟨nofun, ?_⟩
      rintro ⟨hs, valid⟩
      rw [Except.ok.inj hs, validate_eq_ok_iff.2 valid] at hv
      cases hv
    | ok u =>
      constructor
      · intro h
        obtain rfl := Except.ok.inj h
        exact ⟨rfl, validate_eq_ok_iff.1 hv⟩
      · rintro ⟨hs, -⟩
        rw [Except.ok.inj hs]

/-- A file is loaded if it can be read, its text is a specification, and that has no problems. -/
theorem load_eq_ok_iff {store : Store} {path : String} : load store path = .ok s ↔
    ∃ text, store.readText [] path = .ok text ∧ ofText (.ofPath path) text = .ok s ∧ s.problems = [] := by
  unfold load
  cases store.readText [] path with
  | error f => simp
  | ok text => simp [ofValidText_eq_ok_iff]

end Specification

namespace Cli

section Validate

variable {α β : Type} {x : Work α} {c c' : Console}

theorem andThen_of_ok {a : α} (h : x c = (.ok a, c')) (f : α → Work β) : (x >>= f) c = f a c' := by
  show ExceptT.bindCont f (x c).1 (x c).2 = _
  rw [h]
  rfl

theorem andThen_of_error {chain : Failure} (h : x c = (.error chain, c')) (f : α → Work β) :
    (x >>= f) c = (.error chain, c') := by
  show ExceptT.bindCont f (x c).1 (x c).2 = _
  rw [h]
  rfl

theorem readFile_result (context path : String) (c : Console) :
    readFile context path c = ((c.store.readText [] path).mapError fun e => [context, e.message], c) := by
  have hget : (get : Work Console) c = (.ok c, c) := rfl
  unfold readFile
  rw [andThen_of_ok hget]
  cases c.store.readText [] path <;> rfl

/-- What comes of looking for the problems of a document.  There is no fourth way to fail: what has no problems
compiles. -/
theorem validate_result (path : String) (c : Console) : (validate path c).1 =
    match c.store.readText [] path with
    | .error e => .error ["Failed to read " ++ path, e.message]
    | .ok text =>
      match Specification.ofText (.ofPath path) text with
      | .error cause => .error (("Failed to parse " ++ path) :: ((DocumentFormat.ofPath path).fault cause).chain)
      | .ok s =>
        if s.problems = [] then .ok () else .error [toString s.problems.length ++ " problem(s) found"] := by
  have hread := readFile_result ("Failed to read " ++ path) path c
  unfold validate
  cases hr : c.store.readText [] path with
  | error e =>
    rw [hr] at hread
    rw [andThen_of_error hread]
  | ok text =>
    rw [hr] at hread
    rw [andThen_of_ok hread]
    dsimp only
    cases ht : Specification.ofText (.ofPath path) text with
    | error cause => rfl
    | ok s =>
      dsimp only
      cases hp : s.problems with
      | nil =>
        obtain ⟨program, hc⟩ := Specification.compiles_of_valid hp
        rw [hc]
        rfl
      | cons p ps => rfl

end Validate

/-- A chain that the command fails with. -/
theorem validate_chain {path : String} {c : Console} {context : String} {causes : List String}
    (h : (validate path c).1 = .error (context :: causes)) :
    context = "Failed to read " ++ path ∨ context = "Failed to parse " ++ path ∨
      ∃ n : Nat, context = toString n ++ " problem(s) found" := by
  rw [validate_result] at h
  split at h
  · cases h
    exact .inl rfl
  · split at h
    · cases h
      exact .inr (.inl rfl)
    · split_ifs at h
      cases h
      exact .inr (.inr ⟨_, rfl⟩)

/-- What has no problems compiles; what keeps a specification from compiling is among its problems; so the command
accepts exactly what can be loaded, and never says of a valid specification that it does not compile. -/
theorem checkers_agree (s : Specification) (path : String) (c : Console) :
    (s.problems = [] → ∃ program, Program.compile s = .ok program) ∧
    ((∃ e, Program.compile s = .error e) ↔ ∃ b ∈ s.benchmarks, ∃ e, Program.Defect s b e) ∧
    (∀ e, Program.compile s = .error e → (∃ b ∈ s.benchmarks, Program.Defect s b e) ∧ e.problem ∈ s.problems) ∧
    ((validate path c).1 = .ok () ↔ ∃ t, Specification.load c.store path = .ok t) ∧
    ∀ causes, (validate path c).1 ≠ .error ("Specification is valid but does not compile" :: causes) := by
  refine ⟨Specification.compiles_of_valid, ⟨?_, ?_⟩, fun e h => ⟨Program.defect_of_compile_error h, ?_⟩, ?_, ?_⟩
  · rintro ⟨e, h⟩
    obtain ⟨b, hb, hd⟩ := Program.defect_of_compile_error h
    exact ⟨b, hb, e, hd⟩
  · rintro ⟨b, hb, e, hd⟩
    exact Program.compile_fails_of_defect hb hd
  · exact Specification.mem_problems_of_compile_error h
  · simp only [Specification.load_eq_ok_iff]
    rw [validate_result]
    cases c.store.readText [] path with
    | error e => simp
    | ok text =>
      cases ht : Specification.ofText (.ofPath path) text with
      | error cause => simp [ht]
      | ok s =>
        by_cases valid : s.problems = [] <;> simp [ht, valid]
  · intro causes h
    -- the first letter tells the sentence from the first two, and the last letter from the third
    rcases validate_chain h with h | h | ⟨n, h⟩
    · have hfirst := congrArg (·.toList.head?) h
      simp at hfirst
    · have hfirst := congrArg (·.toList.head?) h
      simp at hfirst
    · have hlast := congrArg (·.toList.getLast?) h
      simp at hlast

end Cli

end AgentTrial
