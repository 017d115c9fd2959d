import AgentTrial.Proofs.Text.Search
import Mathlib.Data.String.Basic

/-!
# Slice — texts cut at byte offsets

In memory a text is its bytes, and it is cut at offsets into them.  An offset outside the text or inside a character
is no place to cut.

* `slice?`: the piece of a text between two offsets.
* `slice?_append`: the pieces of a text that is put together are found at the sums of their sizes.
* `offset?_eq_some_iff`: the offset of a pattern is the size of what stands before its leftmost occurrence.
-/

namespace AgentTrial.Text

/-- The piece of a text between two byte offsets, if both are between characters of the text. -/
def slice? (s : String) (start stop : Nat) : Option String :=
  if String.Pos.Raw.IsValid s ⟨start⟩ ∧ String.Pos.Raw.IsValid s ⟨stop⟩ ∧ start ≤ stop then
    some (String.Pos.Raw.extract s ⟨start⟩ ⟨stop⟩)
  else none

/-- The byte offset of the leftmost occurrence of a pattern. -/
def offset? (p s : String) : Option Nat := (cut? p.toList s.toList).map fun (b, _) => (String.ofList b).utf8ByteSize

theorem slice?_append (a b c : String) :
    slice? (a ++ b ++ c) a.utf8ByteSize (a.utf8ByteSize + b.utf8ByteSize) = some b := by
  have hstart : String.Pos.Raw.IsValid (a ++ b ++ c) ⟨a.utf8ByteSize⟩ :=
    String.Pos.Raw.isValid_iff_exists_append.2 ⟨a, b ++ c, String.append_assoc, rfl⟩
  have hstop : String.Pos.Raw.IsValid (a ++ b ++ c) ⟨a.utf8ByteSize + b.utf8ByteSize⟩ :=
    String.Pos.Raw.isValid_iff_exists_append.2 ⟨a ++ b, c, rfl, by
      rw [← String.utf8ByteSize_append]
      rfl⟩
  have hextract := String.extract_of_valid a.toList b.toList c.toList
  simp only [String.utf8Len_toList, String.ofList_append, String.ofList_toList] at hextract
  rw [slice?, if_pos ⟨hstart, hstop, Nat.le_add_right _ _⟩, hextract]

theorem slice?_left (a b : String) : slice? (a ++ b) 0 a.utf8ByteSize = some a := by
  have h := slice?_append "" a b
  rwa [String.empty_append, String.utf8ByteSize_empty, Nat.zero_add] at h

theorem slice?_right (a b : String) : slice? (a ++ b) a.utf8ByteSize (a ++ b).utf8ByteSize = some b := by
  have h := slice?_append a b ""
  rwa [String.append_empty, ← String.utf8ByteSize_append] at h

variable {p s : String} {n : Nat}

theorem offset?_eq_none_iff : offset? p s = none ↔ cut? p.toList s.toList = none := Option.map_eq_none_iff

theorem offset?_eq_some_iff :
    offset? p s = some n ↔ ∃ b r, cut? p.toList s.toList = some (b, r) ∧ (String.ofList b).utf8ByteSize = n := by
  rw [offset?, Option.map_eq_some_iff]
  exact Prod.exists

/-- At the offset of a pattern a text is cut before and behind the pattern. -/
theorem slices_of_offset? (h : offset? p s = some n) :
    ∃ b r : String, cut? p.toList s.toList = some (b.toList, r.toList) ∧ s = b ++ p ++ r ∧ n = b.utf8ByteSize ∧
      slice? s 0 n = some b ∧ slice? s (n + p.utf8ByteSize) s.utf8ByteSize = some r := by
  obtain ⟨b, r, hcut, rfl⟩ := offset?_eq_some_iff.1 h
  have hs : s = .ofList b ++ p ++ .ofList r := by
    rw [← String.ofList_toList (s := s), cut?_some hcut, String.ofList_append, String.ofList_append,
      String.ofList_toList]
  refine ⟨.ofList b, .ofList r, by simpa only [String.toList_ofList] using hcut, hs, rfl, ?_, ?_⟩
  · rw [hs, String.append_assoc]
    exact slice?_left _ _
  · rw [hs, ← String.utf8ByteSize_append]
    exact slice?_right _ _

end AgentTrial.Text
