import AgentTrial.Text.Search

/-!
# Search — leftmost occurrences

* `FirstAt`: where a pattern occurs in a text and nowhere before.
* `cut?_eq_some_iff`, `cut?_eq_none_iff`: a text is cut at the leftmost occurrence, if there is one at all.
* `firstAt_of_notMem`: a pattern is not found inside a text that does not have its first character.
-/

namespace AgentTrial.Text

/-- The pattern `p` stands in `s` between `b` and `r`, and it occurs nowhere before. -/
structure FirstAt (p s b r : List Char) : Prop where
  split : s = b ++ p ++ r
  first : ∀ b' r', s = b' ++ p ++ r' → b.length ≤ b'.length

variable {p s b r b' r' : List Char} {c : Char}

theorem after?_eq_some_iff : after? p s = some r ↔ s = p ++ r := by
  constructor
  · exact after?_some
  · rintro rfl
    exact after?_append p r

theorem after?_of_not_starts (h : ¬ p <+: s) : after? p s = none := by
  cases hr : after? p s with
  | none => rfl
  | some r => exact absurd ⟨r, (after?_some hr).symm⟩ h

theorem dropEnd?_eq_some_iff : dropEnd? p s = some r ↔ s = r ++ p := by
  rw [dropEnd?, Option.map_eq_some_iff]
  constructor
  · rintro ⟨x, hx, rfl⟩
    have hrev := congrArg List.reverse (after?_some hx)
    rwa [List.reverse_reverse, List.reverse_append, List.reverse_reverse] at hrev
  · rintro rfl
    refine ⟨r.reverse, ?_, List.reverse_reverse r⟩
    rw [List.reverse_append, after?_append]

/-- There is one leftmost occurrence. -/
theorem FirstAt.unique (h : FirstAt p s b r) (h' : FirstAt p s b' r') : b = b' ∧ r = r' := by
  have hlength : b.length = b'.length := Nat.le_antisymm (h.first _ _ h'.split) (h'.first _ _ h.split)
  have hsame : b ++ (p ++ r) = b' ++ (p ++ r') := by
    rw [← List.append_assoc, ← List.append_assoc, ← h.split, h'.split]
  obtain ⟨rfl, hrest⟩ := List.append_inj hsame hlength
  exact ⟨rfl, List.append_cancel_left hrest⟩

/-- What follows an occurrence ends what follows the leftmost one. -/
theorem FirstAt.suffix (h : FirstAt p s b r) (hs : s = b' ++ p ++ r') : r' <:+ r := by
  have hr : r <:+ s := ⟨b ++ p, h.split.symm⟩
  have hr' : r' <:+ s := ⟨b' ++ p, hs.symm⟩
  have hlength : r'.length ≤ r.length := by
    have hle := h.first b' r' hs
    have hsize := congrArg List.length (h.split.symm.trans hs)
    simp only [List.length_append] at hsize
    omega
  exact List.suffix_of_suffix_length_le hr' hr hlength

theorem FirstAt.cons (h : FirstAt p s b r) (hc : after? p (c :: s) = none) : FirstAt p (c :: s) (c :: b) r := by
  refine ⟨by rw [h.split]; rfl, fun b' r' hs => ?_⟩
  cases b' with
  | nil =>
    rw [List.nil_append] at hs
    rw [after?_eq_some_iff.2 hs] at hc
    cases hc
  | cons d b' => exact Nat.succ_le_succ (h.first b' r' (List.cons.inj hs).2)

theorem firstAt_of_cut? (h : cut? p s = some (b, r)) : FirstAt p s b r := by
  induction s generalizing b with
  | nil =>
    obtain ⟨x, hx, hb⟩ := Option.map_eq_some_iff.1 h
    cases hb
    exact ⟨after?_some hx, fun _ _ _ => Nat.zero_le _⟩
  | cons c s ih =>
    rw [cut?] at h
    cases hc : after? p (c :: s) with
    | some x =>
      rw [hc] at h
      cases h
      exact ⟨after?_some hc, fun _ _ _ => Nat.zero_le _⟩
    | none =>
      rw [hc] at h
      obtain ⟨⟨b', r'⟩, hx, hb⟩ := Option.map_eq_some_iff.1 h
      cases hb
      exact (ih hx).cons hc

theorem cut?_eq_none_iff : cut? p s = none ↔ ∀ b r, s ≠ b ++ p ++ r := by
  induction s with
  | nil =>
    rw [cut?, Option.map_eq_none_iff]
    constructor
    · intro h b r hs
      obtain ⟨hbp, -⟩ := List.append_eq_nil_iff.1 hs.symm
      obtain ⟨-, rfl⟩ := List.append_eq_nil_iff.1 hbp
      cases h
    · intro h
      cases ha : after? p [] with
      | none => rfl
      | some r => exact absurd (after?_some ha) (h [] r)
  | cons c s ih =>
    rw [cut?]
    cases hc : after? p (c :: s) with
    | some r =>
      have hs : c :: s = [] ++ p ++ r := after?_some hc
      exact iff_of_false nofun fun h => h [] r hs
    | none =>
      dsimp only
      rw [Option.map_eq_none_iff, ih]
      constructor
      · intro h b r hs
        cases b with
        | nil =>
          rw [List.nil_append] at hs
          rw [after?_eq_some_iff.2 hs] at hc
          cases hc
        | cons d b => exact h b r (List.cons.inj hs).2
      · rintro h b r rfl
        exact h (c :: b) r rfl

theorem cut?_eq_some_iff : cut? p s = some (b, r) ↔ FirstAt p s b r := by
  constructor
  · exact firstAt_of_cut?
  · intro h
    cases hcut : cut? p s with
    | none => exact absurd h.split (cut?_eq_none_iff.1 hcut b r)
    | some x =>
      obtain ⟨rfl, rfl⟩ := (firstAt_of_cut? hcut).unique h
      rfl

/-- What does not have the first character of a pattern stands before it as a whole. -/
theorem firstAt_of_notMem (hc : c ∉ b) : FirstAt (c :: p) (b ++ c :: p ++ r) b r := by
  refine ⟨rfl, fun b' r' hs => Nat.le_of_not_lt fun hlt => ?_⟩
  -- an earlier occurrence would put the first character of the pattern inside `b`
  have hget : b[b'.length]? = some c := by
    have hat : (b ++ (c :: p ++ r))[b'.length]? = (b' ++ (c :: p ++ r'))[b'.length]? := by
      rw [← List.append_assoc, hs, List.append_assoc]
    rw [List.getElem?_append_left hlt, List.getElem?_append_right (Nat.le_refl _), Nat.sub_self] at hat
    exact hat
  exact hc (List.mem_of_getElem? hget)

end AgentTrial.Text
