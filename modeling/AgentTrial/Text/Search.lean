/-!
# Search — the first occurrence of a pattern

`cut? p s` cuts `s` around the leftmost occurrence of `p`; replacing all occurrences repeats that on what follows.

* `cut?_some`: the two parts and the pattern between them make up the text.
-/

namespace AgentTrial.Text

/-- What follows `p` in a list that starts with it. -/
def after? : List Char → List Char → Option (List Char)
  | [], s => some s
  | _ :: _, [] => none
  | a :: p, c :: s => if a = c then after? p s else none

/-- The parts before and after the leftmost occurrence of `p`. -/
def cut? (p : List Char) : List Char → Option (List Char × List Char)
  | [] => (after? p []).map ([], ·)
  | c :: s =>
    match after? p (c :: s) with
    | some r => some ([], r)
    | none => (cut? p s).map fun (b, r) => (c :: b, r)

/-- Does `p` occur in the list? -/
def occurs (p s : List Char) : Bool := (cut? p s).isSome

/-- Does the list end with `p`? -/
def endsWith (p s : List Char) : Bool := (after? p.reverse s.reverse).isSome

/-- The list without `p` at its end, where it ends so. -/
def dropEnd? (p s : List Char) : Option (List Char) := (after? p.reverse s.reverse).map List.reverse

theorem after?_some {p s r : List Char} (h : after? p s = some r) : s = p ++ r := by
  fun_induction after? p s with
  | case1 s => simpa using h
  | case2 => simp at h
  | case3 p c s ih => simp [ih h]
  | case4 => simp at h

theorem after?_append (p r : List Char) : after? p (p ++ r) = some r := by
  induction p with
  | nil => rfl
  | cons a p ih => simp [after?, ih]

theorem cut?_some {p s b r : List Char} (h : cut? p s = some (b, r)) : s = b ++ p ++ r := by
  fun_induction cut? p s generalizing b with
  | case1 =>
    obtain ⟨x, hx, hb⟩ := Option.map_eq_some_iff.1 h
    cases hb
    simpa using after?_some hx
  | case2 c s x hx =>
    cases h
    simpa using after?_some hx
  | case3 c s _ ih =>
    obtain ⟨⟨b', r'⟩, hx, hb⟩ := Option.map_eq_some_iff.1 h
    cases hb
    rw [ih hx]
    simp

theorem cut?_length {p s b r : List Char} (h : cut? p s = some (b, r)) :
    s.length = b.length + p.length + r.length := by
  rw [cut?_some h]
  simp
  omega

/-- Every occurrence of `p`, taken from the left, replaced by `v`. -/
def replace (p v s : List Char) : List Char :=
  match _h : cut? p s with
  | some (b, r) => if p = [] then s else b ++ v ++ replace p v r
  | none => s
termination_by s.length
decreasing_by
  have := cut?_length _h
  have : p.length ≠ 0 := by simpa using ‹¬ p = []›
  omega

/-- Every occurrence of `p` in a text replaced by `v`. -/
def replaceAll (p v s : String) : String := .ofList (replace p.toList v.toList s.toList)

end AgentTrial.Text
