/-!
# Excerpt — texts cut to a bounded length

A text longer than its limit is cut there and three points mark the cut.
-/

namespace AgentTrial.Text

/-- The mark after a cut. -/
def ellipsis : String := "..."

/-- At most `limit` characters of a text, with the mark when any were left out. -/
def excerpt (limit : Nat) (s : String) : String :=
  let cs := s.toList
  match cs.drop limit with
  | [] => s
  | _ :: _ => .ofList (cs.take limit) ++ ellipsis

theorem length_excerpt_le (limit : Nat) (s : String) : (excerpt limit s).length ≤ limit + 3 := by
  unfold excerpt
  dsimp only
  split
  · rename_i h
    have : s.toList.length ≤ limit := by simpa using h
    simp only [String.length_toList] at this
    omega
  · have : ellipsis.length = 3 := by decide
    simp only [String.length_append, String.length_ofList, List.length_take, this]
    omega

end AgentTrial.Text
