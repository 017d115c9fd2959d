import AgentTrial.Document.Datum
import AgentTrial.Program.Emit
import AgentTrial.Spec.Problem
import AgentTrial.Store.Basic

/-!
# Fault — everything that can go wrong

A fault keeps its cause; `Fault.message` is the sentence that is shown.
-/

namespace AgentTrial

/-- A setting that cannot be used. -/
structure SettingError where
  field : String
  reason : String
  deriving Repr, DecidableEq

/-- The sentence for an unusable setting. -/
def SettingError.message (e : SettingError) : String := "invalid value for " ++ e.field ++ ": " ++ e.reason

/-- What can go wrong. -/
inductive Fault
  | compile (e : CompileError)
  | invalid (p : Problem)
  | setting (e : SettingError)
  /-- The test host could not run a submission. -/
  | submission (reason : String)
  | provider (reason : String)
  | store (e : StoreError)
  | yaml (c : Cause)
  | json (c : Cause)
  | toml

namespace Fault

/-- The sentence for a fault.  What exactly a document does wrong is left to its cause. -/
def message : Fault → String
  | compile e => "compile error: " ++ e.message
  | invalid p => "invalid specification: " ++ p.message
  | setting e => "configuration error: " ++ e.message
  | submission reason => "test host submission failed: " ++ reason
  | provider reason => "inference provider error: " ++ reason
  | store e => "IO error: " ++ e.message
  | yaml _ => "YAML error:"
  | json _ => "JSON error:"
  | toml => "TOML error:"

/-- The sentence for a fault and the one for its cause, if that is another. -/
def chain (f : Fault) : List String :=
  match f with
  | compile e => [f.message, e.message]
  | invalid p => [f.message, p.message]
  | setting e => [f.message, e.message]
  | store e => [f.message, e.message]
  | f => [f.message]

end Fault

end AgentTrial
