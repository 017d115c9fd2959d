import AgentTrial.Proofs.Program.Unit
import AgentTrial.Proofs.Text.Mark

/-!
# Stem — the file stems of units

A stem is a number of at least three digits, an underscore and a slug.  The number alone tells the units of a program
apart, whatever their names are.

* `isSlugChar_of_mem_fileStem`: a stem has only lower-case letters, digits and underscores.
* `fileStem_inj`: different places have different stems.
* `fileStem_of_compile`: the stem of each unit of a compiled specification.
-/

namespace AgentTrial

namespace Text

/-- The characters of a slug. -/
def isSlugChar (c : Char) : Bool := c.isLower || c.isDigit || c = '_'

theorem isSlugChar_toLower {c : Char} (h : c.isAlphanum = true) : isSlugChar c.toLower = true := by
  unfold Char.toLower
  rw [isSlugChar, Bool.or_assoc, Bool.or_eq_true]
  split
  · next hupper =>
    have hlow : c.val + ('a'.val - 'A'.val) ≥ 'a'.val := by grind
    have hhigh : c.val + ('a'.val - 'A'.val) ≤ 'z'.val := by grind
    exact .inl (Bool.and_eq_true_iff.2 ⟨decide_eq_true hlow, decide_eq_true hhigh⟩)
  · next hother =>
    have hupper : c.isUpper = false := decide_eq_false hother
    have hchar : ((c.isUpper || c.isLower) || c.isDigit) = true := h
    rw [hupper, Bool.false_or, Bool.or_eq_true] at hchar
    exact hchar.imp_right fun hdigit => Bool.or_eq_true_iff.2 (.inl hdigit)

theorem isSlugChar_of_slugChar? {c d : Char} (h : slugChar? c = some d) : isSlugChar d = true := by
  unfold slugChar? at h
  split_ifs at h with halnum hkelvin hdotted
  · cases h
    exact isSlugChar_toLower halnum
  · cases h
    decide
  · cases h
    decide

theorem isSlugChar_of_mem_slug {limit : Nat} {name : String} {c : Char} (h : c ∈ slug limit name) :
    isSlugChar c = true := by
  rcases mem_of_mem_intercalate (List.mem_of_mem_take h) with rfl | ⟨w, hw, hc⟩
  · decide
  · obtain ⟨word, -, rfl⟩ := List.mem_map.1 hw
    obtain ⟨d, -, hd⟩ := List.mem_filterMap.1 hc
    exact isSlugChar_of_slugChar? hd

end Text

namespace Program

theorem ofDigitChars_threeDigits (n : Nat) : Nat.ofDigitChars 10 (threeDigits n) 0 = n := by
  rw [threeDigits, Nat.ofDigitChars_append, Nat.ofDigitChars_replicate_zero, Nat.mul_zero,
    Nat.ofDigitChars_ten_toDigits]

theorem isDigit_of_mem_threeDigits {n : Nat} {c : Char} (h : c ∈ threeDigits n) : c.isDigit = true := by
  rcases List.mem_append.1 h with hzero | hdigit
  · rw [List.eq_of_mem_replicate hzero]
    rfl
  · exact Nat.isDigit_of_mem_toDigits (by decide) (by decide) hdigit

theorem isSlugChar_of_mem_fileStem {index : Nat} {name : String} {c : Char} (h : c ∈ (fileStem index name).toList) :
    Text.isSlugChar c = true := by
  rw [fileStem, String.toList_ofList] at h
  rcases List.mem_append.1 h with hdigit | hrest
  · simp [Text.isSlugChar, isDigit_of_mem_threeDigits hdigit]
  rcases List.mem_cons.1 hrest with rfl | hslug
  · decide
  split_ifs at hslug with hempty
  · simp only [List.mem_cons, List.not_mem_nil, or_false] at hslug
    rcases hslug with rfl | rfl | rfl | rfl <;> decide
  · exact Text.isSlugChar_of_mem_slug hslug

theorem fileStem_ne_empty (index : Nat) (name : String) : fileStem index name ≠ "" := by
  intro h
  have hmem : '_' ∈ (fileStem index name).toList := by
    rw [fileStem, String.toList_ofList]
    exact List.mem_append_right _ List.mem_cons_self
  rw [h] at hmem
  cases hmem

/-- A stem begins with the number of its place, and the number ends at the first underscore. -/
theorem fileStem_inj {i j : Nat} {a b : String} (h : fileStem i a = fileStem j b) : i = j := by
  have hno : ∀ n, '_' ∉ threeDigits n := fun n hmem => absurd (isDigit_of_mem_threeDigits hmem) (by decide)
  have hchars := congrArg String.toList h
  rw [fileStem, fileStem, String.toList_ofList, String.toList_ofList] at hchars
  obtain ⟨hdigits, -⟩ := Text.append_cons_inj (hno _) (hno _) hchars
  have hnumber : i + 1 = j + 1 := by
    rw [← ofDigitChars_threeDigits (i + 1), hdigits, ofDigitChars_threeDigits]
  omega

/-- A unit has the stem of its place and its name. -/
theorem fileStem_of_compile {s : Specification} {p : SourceProgram} (compiled : compile s = .ok p) {k : Nat}
    {u : CompiledUnit} (h : p.units[k]? = some u) : u.fileStem = fileStem k u.name := by
  obtain ⟨b, block, -, -, rfl⟩ := (unit_iff compiled).1 h
  rfl

end Program

end AgentTrial
