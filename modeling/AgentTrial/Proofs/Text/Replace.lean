import AgentTrial.Proofs.Text.Mark
import AgentTrial.Proofs.Text.Search
import Mathlib.Data.List.Infix
import Mathlib.Tactic.SplitIfs

/-!
# Replace — marks that are replaced in a text

A mark is a pattern whose first character stands nowhere else in it, so that marks do not overlap and are found one by
one from the left.

* `occurrences`: at how many places of a text a pattern stands.
* `occurrences_append_mark`, `replace_append_mark`: counting and replacing go on after a mark.
* `occurrences_append_value`: what makes no marks wherever it is put.
* `length_replace`: the length of a text with its marks replaced tells how many they were.
-/

namespace AgentTrial.Text

/-- At how many places of a text a pattern stands. -/
def occurrences (p s : List Char) : Nat := s.tails.countP (p.isPrefixOf ·)

variable {p q v s b b' l r r' : List Char} {c d : Char}

theorem occurrences_cons (p : List Char) (d : Char) (s : List Char) :
    occurrences p (d :: s) = occurrences p s + if p <+: d :: s then 1 else 0 := by
  rw [occurrences, List.tails_cons, List.countP_cons, occurrences]
  simp only [List.isPrefixOf_iff_prefix]

theorem occurrences_eq_zero_iff : occurrences p s = 0 ↔ ∀ b r, s ≠ b ++ p ++ r := by
  simp only [occurrences, List.countP_eq_zero, List.mem_tails, List.isPrefixOf_iff_prefix]
  constructor
  · rintro h b r rfl
    exact h (p ++ r) ⟨b, (List.append_assoc b p r).symm⟩ ⟨r, rfl⟩
  · rintro h t ⟨b, rfl⟩ ⟨r, rfl⟩
    exact h b r (List.append_assoc b p r).symm

theorem occurrences_nil (h : p ≠ []) : occurrences p [] = 0 := by
  refine occurrences_eq_zero_iff.2 fun b r hs => h ?_
  exact (List.append_eq_nil_iff.1 (List.append_eq_nil_iff.1 hs.symm).1).2

theorem occurs_iff : occurs p s = true ↔ occurrences p s ≠ 0 := by
  rw [occurs, ne_eq, occurrences_eq_zero_iff, ← cut?_eq_none_iff, Option.isSome_iff_ne_none]

/-- A pattern does not begin inside a text without its first character. -/
theorem occurrences_append_of_notMem (h : c ∉ l) (r : List Char) :
    occurrences (c :: p) (l ++ r) = occurrences (c :: p) r := by
  induction l with
  | nil => rfl
  | cons d l ih =>
    obtain ⟨hd, hl⟩ := List.ne_and_not_mem_of_not_mem_cons h
    have hstart : ¬ c :: p <+: d :: (l ++ r) := fun hp => hd (List.cons_prefix_cons.1 hp).1
    rw [List.cons_append, occurrences_cons, ih hl, if_neg hstart, Nat.add_zero]

/-- What has no `c` starts a text only before the first `c`. -/
theorem prefix_append_cons_iff (h : c ∉ p) : p <+: l ++ c :: r ↔ p <+: l := by
  constructor
  · intro hp
    have hreverse : p.reverse <:+ r.reverse ++ c :: l.reverse := by
      have := List.reverse_suffix.2 hp
      simpa using this
    exact List.reverse_suffix.1 (suffix_of_suffix_cons (by simpa using h) hreverse)
  · exact fun hp => hp.trans (List.prefix_append l _)

/-- A mark does not reach over its own first character. -/
theorem occurrences_append_cons (h : c ∉ p) (l r : List Char) :
    occurrences (c :: p) (l ++ c :: r) = occurrences (c :: p) l + occurrences (c :: p) (c :: r) := by
  induction l with
  | nil => rw [occurrences_nil (List.cons_ne_nil c p), Nat.zero_add, List.nil_append]
  | cons d l ih =>
    have hstart : c :: p <+: d :: (l ++ c :: r) ↔ c :: p <+: d :: l := by
      rw [List.cons_prefix_cons, List.cons_prefix_cons, prefix_append_cons_iff h]
    rw [List.cons_append, occurrences_cons, ih, occurrences_cons _ d l]
    simp only [hstart]
    omega

theorem occurrences_append_mark (h : c ∉ p) (l r : List Char) :
    occurrences (c :: p) (l ++ c :: p ++ r) = occurrences (c :: p) l + 1 + occurrences (c :: p) r := by
  have hmark : occurrences (c :: p) (c :: (p ++ r)) = occurrences (c :: p) r + 1 := by
    rw [occurrences_cons, if_pos ⟨r, rfl⟩, occurrences_append_of_notMem h]
  rw [List.append_assoc, List.cons_append, occurrences_append_cons h, hmark]
  omega

/-- A pattern does not reach over a character that it does not have. -/
theorem occurrences_append_other (hp : p ≠ []) (hd : d ∉ p) (l r : List Char) :
    occurrences p (l ++ d :: r) = occurrences p l + occurrences p r := by
  induction l with
  | nil =>
    have hstart : ¬ p <+: d :: r := fun h => hp (List.prefix_nil.1 ((prefix_append_cons_iff (l := []) hd).1 h))
    rw [List.nil_append, occurrences_cons, if_neg hstart, occurrences_nil hp]
    omega
  | cons e l ih =>
    rw [List.cons_append, occurrences_cons, ih, occurrences_cons p e l]
    simp only [← List.cons_append, prefix_append_cons_iff hd]
    omega

theorem prefix_append_iff_of_last (hd : d ∉ v) : p ++ [d] <+: l ++ v ↔ p ++ [d] <+: l := by
  refine ⟨fun hp => ?_, fun hp => hp.trans (List.prefix_append l v)⟩
  rcases List.prefix_or_prefix_of_prefix hp (List.prefix_append l v) with hl | ⟨t, ht⟩
  · exact hl
  · -- what is left of the pattern behind `l` would have its last character in `v`
    cases t using List.reverseRecOn with
    | nil => exact ⟨[], by simpa using ht.symm⟩
    | append_singleton t e =>
      obtain ⟨-, he⟩ := List.append_inj' ((List.append_assoc l t [e]).trans ht) rfl
      rw [← ht, List.prefix_append_right_inj, List.singleton_inj.1 he] at hp
      exact absurd (hp.subset (List.mem_append_right t List.mem_cons_self)) hd

/-- A pattern does not end inside a text without its last character. -/
theorem occurrences_append_of_last (hd : d ∉ v) (l : List Char) :
    occurrences (p ++ [d]) (l ++ v) = occurrences (p ++ [d]) l := by
  induction l with
  | nil =>
    rw [List.nil_append, occurrences_nil (by simp), occurrences_eq_zero_iff]
    rintro b r rfl
    exact hd (by simp)
  | cons e l ih =>
    rw [List.cons_append, occurrences_cons, ih, occurrences_cons _ e l]
    simp only [← List.cons_append, prefix_append_iff_of_last hd]

/-- A value without the last character of a pattern that ends with a character the pattern does not have makes no
occurrence, whatever is around it. -/
theorem occurrences_append_value {z : Char} (hz : z ∉ v) (hd : d ∉ p ++ [z]) (l r : List Char) :
    occurrences (p ++ [z]) (l ++ (v ++ [d]) ++ r) = occurrences (p ++ [z]) l + occurrences (p ++ [z]) r := by
  have hassoc : l ++ (v ++ [d]) ++ r = l ++ v ++ d :: r := by simp
  rw [hassoc, occurrences_append_other (by simp) hd, occurrences_append_of_last hz]

/-! ## Replacing -/

/-- A text without the mark stands before its first occurrence. -/
theorem firstAt_of_occurrences (h : c ∉ p) (hb : occurrences (c :: p) b = 0) (r : List Char) :
    FirstAt (c :: p) (b ++ c :: p ++ r) b r := by
  refine ⟨rfl, fun b' r' hs => Nat.le_of_not_lt fun hlt => ?_⟩
  obtain ⟨t, rfl⟩ : b' <+: b :=
    List.prefix_of_prefix_length_le ⟨c :: p ++ r', by rw [hs, List.append_assoc]⟩
      ((List.prefix_append b (c :: p)).trans (List.prefix_append _ r)) hlt.le
  cases t with
  | nil => simp at hlt
  | cons e t =>
    rw [List.append_assoc, List.append_assoc, List.append_assoc, List.append_cancel_left_eq] at hs
    obtain ⟨rfl, htail⟩ := List.cons.inj hs
    obtain ⟨u, rfl⟩ : p <+: t := (prefix_append_cons_iff h).1 ⟨r', htail.symm⟩
    exact occurrences_eq_zero_iff.1 hb b' u (by simp)

theorem replace_of_none (h : occurrences p s = 0) (v : List Char) : replace p v s = s := by
  have hcut : cut? p s = none := cut?_eq_none_iff.2 (occurrences_eq_zero_iff.1 h)
  rw [replace]
  split
  · rename_i hsome
    rw [hcut] at hsome
    cases hsome
  · rfl

theorem replace_append_mark (h : c ∉ p) (hb : occurrences (c :: p) b = 0) (v r : List Char) :
    replace (c :: p) v (b ++ c :: p ++ r) = b ++ v ++ replace (c :: p) v r := by
  have hcut := cut?_eq_some_iff.2 (firstAt_of_occurrences h hb r)
  rw [replace]
  split
  · rename_i hsome
    rw [hcut] at hsome
    cases hsome
    rw [if_neg (List.cons_ne_nil c p)]
  · rename_i hnone
    rw [hcut] at hnone
    cases hnone

theorem replace_cons_of_not_starts (h : ¬ p <+: d :: s) (v : List Char) : replace p v (d :: s) = d :: replace p v s := by
  have hafter := after?_of_not_starts h
  have hp : p ≠ [] := by
    rintro rfl
    exact h List.nil_prefix
  have hcut : cut? p (d :: s) = (cut? p s).map fun x => (d :: x.1, x.2) := by rw [cut?, hafter]
  rw [replace.eq_def p v (d :: s), replace.eq_def p v s, hcut]
  cases cut? p s with
  | none => rfl
  | some x => simp only [Option.map_some, if_neg hp, List.cons_append]

theorem replace_append_of_notMem (h : c ∉ l) (v r : List Char) :
    replace (c :: p) v (l ++ r) = l ++ replace (c :: p) v r := by
  induction l with
  | nil => rfl
  | cons d l ih =>
    obtain ⟨hd, hl⟩ := List.ne_and_not_mem_of_not_mem_cons h
    have hstart : ¬ c :: p <+: d :: (l ++ r) := fun hp => hd (List.cons_prefix_cons.1 hp).1
    rw [List.cons_append, replace_cons_of_not_starts hstart, ih hl, List.cons_append]

theorem FirstAt.occurrences_eq_zero (h : FirstAt p s b r) (hp : p ≠ []) : occurrences p b = 0 := by
  refine occurrences_eq_zero_iff.2 fun x y hb => hp ?_
  have hlength := h.first x (y ++ p ++ r) (by rw [h.split, hb]; simp only [List.append_assoc])
  rw [hb, List.length_append, List.length_append] at hlength
  exact List.length_eq_zero_iff.1 (by omega)

/-- Every mark takes its own length from a text and gives it that of the value. -/
theorem length_replace (h : c ∉ p) (v s : List Char) :
    (replace (c :: p) v s).length + occurrences (c :: p) s * (p.length + 1) =
      s.length + occurrences (c :: p) s * v.length := by
  induction hn : s.length using Nat.strong_induction_on generalizing s with
  | h n ih =>
    subst hn
    cases hcut : cut? (c :: p) s with
    | none =>
      have hnone := occurrences_eq_zero_iff.2 (cut?_eq_none_iff.1 hcut)
      rw [replace_of_none hnone, hnone]
      omega
    | some x =>
      obtain ⟨b, r⟩ := x
      have hfirst := cut?_eq_some_iff.1 hcut
      have hb := hfirst.occurrences_eq_zero (List.cons_ne_nil c p)
      have hlength := congrArg List.length hfirst.split
      simp only [List.length_append, List.length_cons] at hlength
      have hrest := ih r.length (by omega) r rfl
      rw [hfirst.split, replace_append_mark h hb, occurrences_append_mark h, hb]
      simp only [List.length_append, List.length_cons, Nat.add_mul, Nat.zero_add, Nat.one_mul]
      omega

end AgentTrial.Text
