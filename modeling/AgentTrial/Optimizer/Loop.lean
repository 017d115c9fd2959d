import AgentTrial.Report.Basic
import AgentTrial.Json.Decode

/-!
# Loop — the state of an optimization

A run goes on until a report meets the threshold or the budget of iterations is spent.  The threshold is looked at
first, so the last iteration can still converge.  Both ends absorb every further report.
-/

namespace AgentTrial

/-- The state of an optimization. -/
inductive LoopState
  | running (completed : Nat)
  | converged (iterations : Nat)
  | exhausted (iterations : Nat)
  deriving Repr, DecidableEq

/-- When an optimization stops. -/
structure StopPolicy (α : Type) where
  maxIterations : Nat
  /-- The least pass rate in percent. -/
  minPassRate : α
  deriving Repr

namespace LoopState

/-- The state before the first iteration. -/
def initial : LoopState := running 0

/-- Has the run ended? -/
def isTerminal : LoopState → Bool
  | running _ => false
  | _ => true

/-- The number of finished iterations. -/
def iterations : LoopState → Nat
  | running n => n
  | converged n => n
  | exhausted n => n

/-- The word for a state. -/
def name : LoopState → String
  | running _ => "running"
  | converged _ => "converged"
  | exhausted _ => "exhausted"

/-- The state after one more report. -/
def step {α : Type} [Score α] (policy : StopPolicy α) (r : ResultReport α) : LoopState → LoopState
  | running completed =>
    let done := completed + 1
    if r.meetsThreshold policy.minPassRate then converged done
    else if policy.maxIterations ≤ done then exhausted done
    else running done
  | s => s

section Step

variable {α : Type} [Score α] {policy : StopPolicy α} {r : ResultReport α} {completed n : Nat}

theorem step_eq_running_iff : (running completed).step policy r = running n ↔
    n = completed + 1 ∧ r.meetsThreshold policy.minPassRate = false ∧ n < policy.maxIterations := by
  rw [step]
  cases hm : r.meetsThreshold policy.minPassRate with
  | true => simp
  | false =>
    by_cases hb : policy.maxIterations ≤ completed + 1 <;> simp [hb] <;> omega

theorem step_eq_converged_iff : (running completed).step policy r = converged n ↔
    n = completed + 1 ∧ r.meetsThreshold policy.minPassRate = true := by
  rw [step]
  cases hm : r.meetsThreshold policy.minPassRate with
  | true => simp [eq_comm]
  | false => by_cases hb : policy.maxIterations ≤ completed + 1 <;> simp [hb]

theorem step_eq_exhausted_iff : (running completed).step policy r = exhausted n ↔
    n = completed + 1 ∧ r.meetsThreshold policy.minPassRate = false ∧ policy.maxIterations ≤ n := by
  rw [step]
  cases hm : r.meetsThreshold policy.minPassRate with
  | true => simp
  | false =>
    by_cases hb : policy.maxIterations ≤ completed + 1 <;> simp [hb] <;> omega

/-- A run that goes on has less of its budget left. -/
theorem left_lt_of_step (h : (running completed).step policy r = running n) :
    policy.maxIterations - n < policy.maxIterations - completed := by
  obtain ⟨hn, -, hb⟩ := step_eq_running_iff.1 h
  omega

end Step

/-- The name of the field with the count. -/
def countKey : LoopState → String
  | running _ => "completed"
  | _ => "iterations"

/-- The value tree of a state. -/
def toJson (s : LoopState) : Json := .record [("state", .text s.name), (s.countKey, .nat s.iterations)]

/-- The kinds of states by their words. -/
def kinds : List (String × (Nat → LoopState)) :=
  [("running", running), ("converged", converged), ("exhausted", exhausted)]

/-- The fields of a state besides its kind. -/
def countFields (kind : Nat → LoopState) : Fields LoopState :=
  kind <$> Fields.required (kind 0).countKey (Datum.asNat Json.maxNat64)

/-- Splits the fields of a state into its kind and the others. -/
def splitKind : List (Datum × Datum) → Except Cause (Option Datum × List (Datum × Datum))
  | [] => .ok (none, [])
  | (k, v) :: fields => do
    let (kind, rest) ← splitKind fields
    if (← k.asText) = "state" then
      if kind.isSome then .error .mismatch else return (some v, rest)
    else return (kind, (k, v) :: rest)

/-- Decodes a state: a record with the kind among its fields, or a list with the kind first. -/
def decode (d : Datum) : Except Cause LoopState :=
  match d with
  | .list .fields (kind :: rest) => do
    (countFields (← Datum.named kinds (← kind.asText))).decode (.list .fields rest)
  | d => do
    let (kind, rest) ← splitKind (← d.asFields)
    match kind with
    | none => .error .mismatch
    | some kind => (countFields (← Datum.named kinds (← kind.asText))).decode (.record rest)

end LoopState

end AgentTrial
