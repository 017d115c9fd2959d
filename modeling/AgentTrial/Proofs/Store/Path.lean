import AgentTrial.Store.Path
import Mathlib.Data.List.Basic

/-!
# Path — the name of a file below a directory

* `Path.parts_append`: the parts of two paths with a slash between them.
* `Path.fileName?_join`: a name without slashes is the last part of its path below every directory.
-/

namespace AgentTrial.Path

theorem splitSlash_ne_nil (s : List Char) : splitSlash s ≠ [] := by
  cases s with
  | nil => exact List.cons_ne_nil _ _
  | cons c s =>
    rw [splitSlash]
    split
    · exact List.cons_ne_nil _ _
    · split <;> exact List.cons_ne_nil _ _

theorem splitSlash_append (s t : List Char) : splitSlash (s ++ '/' :: t) = splitSlash s ++ splitSlash t := by
  induction s with
  | nil =>
    cases ht : splitSlash t with
    | nil => exact absurd ht (splitSlash_ne_nil t)
    | cons p ps => simp [splitSlash, ht]
  | cons c s ih =>
    cases hs : splitSlash s with
    | nil => exact absurd hs (splitSlash_ne_nil s)
    | cons p ps =>
      rw [List.cons_append, splitSlash, ih, splitSlash, hs]
      by_cases hc : c = '/' <;> simp [hc]

theorem splitSlash_of_notMem {s : List Char} (h : '/' ∉ s) : splitSlash s = [s] := by
  induction s with
  | nil => rfl
  | cons c s ih =>
    have hc : c ≠ '/' := fun hc => h (by simp [hc])
    rw [splitSlash, ih fun hs => h (List.mem_cons_of_mem _ hs)]
    simp [hc]

theorem parts_append (dir path : String) : parts (dir ++ "/" ++ path) = parts dir ++ parts path := by
  have hslash : (dir ++ "/" ++ path).toList = dir.toList ++ '/' :: path.toList := by simp
  rw [parts, hslash, splitSlash_append, List.map_append, List.filter_append]
  rfl

/-- Can this be the name of a file? -/
def IsName (name : String) : Prop := '/' ∉ name.toList ∧ name ≠ "" ∧ name ≠ "." ∧ name ≠ ".."

variable {name : String}

theorem parts_of_isName (h : IsName name) : parts name = [name] := by
  obtain ⟨hslash, hempty, hpoint, -⟩ := h
  rw [parts, splitSlash_of_notMem hslash]
  simp [hempty, hpoint]

theorem not_isAbsolute (h : IsName name) : isAbsolute name = false := by
  unfold isAbsolute
  simp only [decide_eq_false_iff_not]
  intro hhead
  exact h.1 (List.mem_of_mem_head? hhead)

theorem suffix_join (dir name : String) : name.toList <:+ (join dir name).toList := by
  unfold join
  split_ifs
  · exact List.suffix_rfl
  all_goals
    rw [String.toList_append]
    exact List.suffix_append _ _

/-- A path below a directory is the name alone, or it ends with a slash and the name. -/
theorem join_cases (dir : String) (h : IsName name) :
    join dir name = name ∨ ∃ above, join dir name = above ++ "/" ++ name := by
  unfold join
  rw [not_isAbsolute h, Bool.false_or]
  by_cases hempty : dir.isEmpty = true
  · exact .inl (if_pos hempty)
  · rw [if_neg hempty]
    by_cases hslash : dir.toList.getLast? = some '/'
    · rw [if_pos hslash]
      obtain ⟨above, habove⟩ := List.getLast?_eq_some_iff.1 hslash
      refine .inr ⟨.ofList above, ?_⟩
      have hdir : dir = .ofList above ++ "/" := String.toList_inj.1 (by simp [habove])
      rw [hdir]
    · rw [if_neg hslash]
      exact .inr ⟨dir, rfl⟩

theorem parts_join (dir : String) (h : IsName name) : ∃ above, parts (join dir name) = above ++ [name] := by
  rcases join_cases dir h with hjoin | ⟨above, hjoin⟩
  · exact ⟨[], by rw [hjoin, parts_of_isName h]; rfl⟩
  · exact ⟨parts above, by rw [hjoin, parts_append, parts_of_isName h]⟩

theorem fileName?_join (dir : String) (h : IsName name) : fileName? (join dir name) = some name := by
  obtain ⟨above, hparts⟩ := parts_join dir h
  rw [fileName?, hparts, List.getLast?_concat]
  simp [h.2.2.2]

end AgentTrial.Path
