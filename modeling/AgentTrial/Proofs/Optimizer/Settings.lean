import AgentTrial.Optimizer.Settings
import AgentTrial.Proofs.Spec.Problem

/-!
# Settings — the settings of an optimization of a valid document

Two checks cover the optimizer settings: that of the document, and that of the settings an optimization runs with.
Each setting comes from the caller, else from the document, else from the agent or a default, so what the one check lets
through has to pass the other whichever of the three it is.

* `check_eq_ok_iff`, `resolve_eq_ok_iff`: what the second check asks for.
* `OptimizerOverrides.acceptable_iff`: what it asks of the caller.
* `resolve_of_valid`: settings of a valid document are refused for one reason, a blank model in the document.
-/

namespace AgentTrial

open Specification (within)

namespace OptimizerSettings

variable {c : OptimizerSettings} {s : Specification} {o : OptimizerOverrides}

theorem check_eq_ok_iff : c.check = .ok () ↔
    Text.isBlankText c.model = false ∧ 1 ≤ c.iterations ∧ within 0 100 c.minPassRate = true := by
  unfold check
  split_ifs with hmodel hiterations hrate
  · simp [hmodel]
  · simp [hiterations]
  · simp_all
  · simp_all
    omega

theorem check_of_blank (h : Text.isBlankText c.model = true) : c.check = .error ⟨"optimizer.model", "must not be empty"⟩ :=
  if_pos h

theorem resolve_eq_ok_iff : resolve s o = .ok c ↔ c = merge s o ∧ (merge s o).check = .ok () := by
  unfold resolve
  dsimp only
  cases (merge s o).check with
  | error e =>
    constructor
    · exact nofun
    · rintro ⟨-, h⟩
      cases h
  | ok u =>
    constructor
    · exact fun h => ⟨(Except.ok.inj h).symm, rfl⟩
    · rintro ⟨rfl, -⟩
      rfl

theorem resolve_of_check_error {e : SettingError} (h : (merge s o).check = .error e) : resolve s o = .error e := by
  unfold resolve
  dsimp only
  rw [h]
  rfl

end OptimizerSettings

/-- Each setting that the caller gives would pass the check in settings that pass it.  The check looks at no other. -/
def OptimizerOverrides.Acceptable (o : OptimizerOverrides) : Prop :=
  ∀ c : OptimizerSettings, c.check = .ok () →
    (∀ m ∈ o.model, { c with model := m }.check = .ok ()) ∧
    (∀ n ∈ o.iterations, { c with iterations := n }.check = .ok ()) ∧
    ∀ x ∈ o.minPassRate, { c with minPassRate := x }.check = .ok ()

theorem OptimizerOverrides.acceptable_iff {o : OptimizerOverrides} : o.Acceptable ↔
    (∀ m ∈ o.model, Text.isBlankText m = false) ∧ (∀ n ∈ o.iterations, 1 ≤ n) ∧
      ∀ x ∈ o.minPassRate, within 0 100 x = true := by
  constructor
  · intro h
    have hpasses : (OptimizerSettings.mk "m" 1 100 default none none).check = .ok () :=
      OptimizerSettings.check_eq_ok_iff.2 ⟨by decide, by decide, by decide⟩
    obtain ⟨hmodel, hiterations, hrate⟩ := h _ hpasses
    exact ⟨fun m hm => (OptimizerSettings.check_eq_ok_iff.1 (hmodel m hm)).1,
      fun n hn => (OptimizerSettings.check_eq_ok_iff.1 (hiterations n hn)).2.1,
      fun x hx => (OptimizerSettings.check_eq_ok_iff.1 (hrate x hx)).2.2⟩
  · rintro ⟨hmodel, hiterations, hrate⟩ c hc
    simp only [OptimizerSettings.check_eq_ok_iff] at hc ⊢
    exact ⟨fun m hm => ⟨hmodel m hm, hc.2⟩, fun n hn => ⟨hc.1, hiterations n hn, hc.2.2⟩,
      fun x hx => ⟨hc.1, hc.2.1, hrate x hx⟩⟩

theorem OptimizerOverrides.acceptable_empty : Acceptable {} :=
  acceptable_iff.2 ⟨nofun, nofun, nofun⟩

/-- The optimizer settings of the document have a model, and its name is blank. -/
def Specification.BlankModel (s : Specification) : Prop :=
  ∃ b m, s.optimizer = some b ∧ b.model = some m ∧ Text.isBlankText m = true

namespace OptimizerSettings

/-- What holds of a setting whichever of the three it comes from. -/
theorem forall_chosen {α : Type} {P : α → Prop} {given block : Option α} {default : α} (hgiven : ∀ x ∈ given, P x)
    (hblock : given = none → ∀ x ∈ block, P x) (hdefault : P default) : P ((given.or block).getD default) := by
  cases given with
  | some x => exact hgiven x rfl
  | none =>
    cases block with
    | some x => exact hblock rfl x rfl
    | none => exact hdefault

section Valid

variable {s : Specification} {o : OptimizerOverrides} (valid : s.problems = []) (acceptable : o.Acceptable)
include valid acceptable

theorem iterations_of_valid : 1 ≤ (merge s o).iterations := by
  refine forall_chosen (OptimizerOverrides.acceptable_iff.1 acceptable).2.1 (fun _ n hn => ?_) (by decide)
  cases hb : s.optimizer with
  | none => simp [hb] at hn
  | some b =>
    have hnot := (Specification.optimizerProblems_eq_nil_iff.1 (Specification.optimizerProblems_of_problems valid hb)).2
    rw [hb, Option.getD_some] at hn
    rw [Option.mem_def.1 hn] at hnot
    exact Nat.one_le_iff_ne_zero.2 fun h => hnot (congrArg some h)

theorem minPassRate_of_valid : within 0 100 (merge s o).minPassRate = true := by
  refine forall_chosen (P := fun x => within 0 100 x = true) (OptimizerOverrides.acceptable_iff.1 acceptable).2.2
    (fun _ x hx => ?_) (by decide)
  cases hb : s.optimizer with
  | none => simp [hb] at hx
  | some b =>
    have hrange := (Specification.optimizerProblems_eq_nil_iff.1 (Specification.optimizerProblems_of_problems valid hb)).1
    rw [hb, Option.getD_some] at hx
    exact hrange x hx

theorem model_of_valid (named : ¬ (o.model = none ∧ s.BlankModel)) : Text.isBlankText (merge s o).model = false := by
  refine forall_chosen (P := fun m => Text.isBlankText m = false) (OptimizerOverrides.acceptable_iff.1 acceptable).1
    (fun hnone m hm => ?_) (Specification.notBlank_model_of_problems valid)
  cases hb : s.optimizer with
  | none => simp [hb] at hm
  | some b =>
    rw [hb, Option.getD_some] at hm
    exact Bool.eq_false_iff.2 fun hblank => named ⟨hnone, b, m, hb, hm, hblank⟩

end Valid

/-- A valid document with settings of the caller that are acceptable one by one gives settings that pass the check, unless
the model is left to the document and its name there is blank. -/
theorem resolve_of_valid {s : Specification} {o : OptimizerOverrides} (valid : s.problems = [])
    (acceptable : o.Acceptable) :
    (¬ (o.model = none ∧ s.BlankModel) → ∃ c, resolve s o = .ok c ∧ c = merge s o ∧
      Text.isBlankText c.model = false ∧ 1 ≤ c.iterations ∧ within 0 100 c.minPassRate = true) ∧
    (o.model = none ∧ s.BlankModel → resolve s o = .error ⟨"optimizer.model", "must not be empty"⟩) := by
  constructor
  · intro named
    have hmodel := model_of_valid valid acceptable named
    have hiterations := iterations_of_valid valid acceptable
    have hrate := minPassRate_of_valid valid acceptable
    exact ⟨_, resolve_eq_ok_iff.2 ⟨rfl, check_eq_ok_iff.2 ⟨hmodel, hiterations, hrate⟩⟩, rfl, hmodel, hiterations, hrate⟩
  · rintro ⟨hnone, b, m, hb, hm, hblank⟩
    refine resolve_of_check_error (check_of_blank ?_)
    simp only [merge, hnone, hb, Option.getD_some, hm, Option.none_or]
    exact hblank

/-- A document with this model in its optimizer settings. -/
def ofModel (model : String) : Specification where
  metadata := { name := "s" }
  agent := { model := "m", systemPrompt := "p" }
  optimizer := some { model := some model, iterations := some 5 }

theorem resolve_of_valid_none : (ofModel "n").problems = [] ∧ OptimizerOverrides.Acceptable {} ∧
    ∃ c, resolve (ofModel "n") {} = .ok c ∧ c.model = "n" ∧ c.iterations = 5 := by
  have valid : (ofModel "n").problems = [] := by decide
  have named : ¬ ((none : Option String) = none ∧ (ofModel "n").BlankModel) := by
    rintro ⟨-, b, m, hb, hm, hblank⟩
    cases hb
    cases hm
    exact absurd hblank (by decide)
  obtain ⟨c, hc, rfl, -⟩ := (resolve_of_valid valid OptimizerOverrides.acceptable_empty).1 named
  exact ⟨valid, OptimizerOverrides.acceptable_empty, _, hc, rfl, rfl⟩

theorem resolve_blank : (ofModel " ").problems = [] ∧ OptimizerOverrides.Acceptable {} ∧
    resolve (ofModel " ") {} = .error ⟨"optimizer.model", "must not be empty"⟩ :=
  ⟨by decide, OptimizerOverrides.acceptable_empty, resolve_of_check_error (check_of_blank (by decide))⟩

end OptimizerSettings

end AgentTrial
