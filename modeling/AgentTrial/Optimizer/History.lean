import AgentTrial.Optimizer.Loop
import AgentTrial.Report.Codec

/-!
# History — the iterations of an optimization

One record for each finished iteration: the prompt it ran with, its report and the state after it.
-/

namespace AgentTrial

/-- A finished iteration. -/
structure IterationRecord where
  /-- Its number, from 1. -/
  iteration : Nat
  systemPrompt : String
  report : ResultReport Float
  state : LoopState
  deriving Repr

namespace IterationRecord

/-- The fields of a record. -/
def fields : Fields IterationRecord :=
  mk <$> Fields.required "iteration" (Datum.asNat Json.maxNat64) <*> Fields.required "system_prompt" Datum.asText <*>
    Fields.required "report" ResultReport.fields.decode <*> Fields.required "state" LoopState.decode

/-- The value tree of a record. -/
def toJson (r : IterationRecord) : Json :=
  .record [("iteration", .nat r.iteration), ("system_prompt", .text r.systemPrompt), ("report", r.report.toJson),
    ("state", r.state.toJson)]

/-- The value tree of a history. -/
def historyToJson (history : List IterationRecord) : Json := .list (history.map toJson)

/-- Decodes a history. -/
def decodeHistory : Datum → Except Cause (List IterationRecord) := Datum.asList fields.decode

end IterationRecord

end AgentTrial
