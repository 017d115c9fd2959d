/-!
# Part — effects on a part of a state

A stateful step that knows one part of a greater state acts on the whole and leaves the rest alone.
-/

namespace AgentTrial

/-- A step on a part, as a step on the whole. -/
def onPart {σ ω α : Type} (get : ω → σ) (set : σ → ω → ω) (step : StateM σ α) : StateM ω α := fun w =>
  let (a, s) := step (get w)
  (a, set s w)

end AgentTrial
