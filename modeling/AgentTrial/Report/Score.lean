/-!
# Score — the numbers a pass rate is taken in

Counting needs no more of a number than these four operations.  Reports are scored in doubles; the same definitions
over the rational numbers score exactly.
-/

namespace AgentTrial

/-- Numbers for pass rates. -/
class Score (α : Type) where
  ofCount : Nat → α
  times : α → α → α
  quotient : α → α → α
  atMost : α → α → Bool

instance : Score Float := ⟨Float.ofNat, (· * ·), (· / ·), fun x y => x ≤ y⟩

instance : Score Rat := ⟨fun n => (n : Rat), (· * ·), (· / ·), fun x y => decide (x ≤ y)⟩

end AgentTrial
