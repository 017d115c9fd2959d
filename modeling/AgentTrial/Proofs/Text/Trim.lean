import AgentTrial.Text.Blank

/-!
# Trim — texts without the blanks at their ends

* `Trims`: a text is what is left of another one without the blanks around it.
* `trims_iff`: every text has one trimming, and it is what `trimChars` gives.
* `trimChars_between`: blanks around a text do not change its trimming.
* `trimChars_around`: what stands around a core is trimmed at its outer ends only.
-/

namespace AgentTrial.Text

/-- A text that neither starts nor ends with a blank. -/
structure Bare (t : List Char) : Prop where
  head : ∀ c, t.head? = some c → isBlank c = false
  last : ∀ c, t.getLast? = some c → isBlank c = false

/-- `t` is `s` without the blanks before and after it. -/
structure Trims (s t : List Char) : Prop where
  split : ∃ lead trail, s = lead ++ t ++ trail ∧ lead.all isBlank = true ∧ trail.all isBlank = true
  bare : Bare t

variable {s t l r : List Char}

/-! ## The start -/

theorem trimStart_append (h : l.all isBlank = true) (s : List Char) : trimStart (l ++ s) = trimStart s :=
  List.dropWhile_append_of_pos (List.all_eq_true.1 h)

theorem exists_trimStart (s : List Char) : ∃ lead, s = lead ++ trimStart s ∧ lead.all isBlank = true :=
  ⟨s.takeWhile isBlank, List.takeWhile_append_dropWhile.symm, List.all_takeWhile⟩

theorem isBlank_of_head?_trimStart {c : Char} (h : (trimStart s).head? = some c) : isBlank c = false := by
  have hnot := List.head?_dropWhile_not isBlank s
  rw [show s.dropWhile isBlank = trimStart s from rfl, h] at hnot
  exact hnot

/-! ## The end -/

theorem isBlank_of_getLast?_trimEnd {s : List Char} {c : Char} (h : (trimEnd s).getLast? = some c) :
    isBlank c = false := by
  induction s with
  | nil => simp at h
  | cons d s ih =>
    rw [trimEnd] at h
    cases ht : trimEnd s with
    | nil =>
      rw [ht] at h
      cases hd : isBlank d with
      | true => simp [hd] at h
      | false =>
        obtain rfl : d = c := by simpa [hd] using h
        exact hd
    | cons e t =>
      rw [ht] at h ih
      exact ih (by simpa using h)

theorem trimEnd_of_blank {s : List Char} (h : (trimEnd s).all isBlank = true) : trimEnd s = [] := by
  cases hl : (trimEnd s).getLast? with
  | none => exact List.getLast?_eq_none_iff.1 hl
  | some c =>
    have hc : isBlank c = true := List.all_eq_true.1 h c (List.mem_of_getLast? hl)
    rw [isBlank_of_getLast?_trimEnd hl] at hc
    exact Bool.noConfusion hc

/-- Only blanks are taken from the end. -/
theorem exists_trimEnd (s : List Char) : ∃ trail, s = trimEnd s ++ trail ∧ trail.all isBlank = true := by
  induction s with
  | nil => exact ⟨[], rfl, rfl⟩
  | cons c s ih =>
    obtain ⟨trail, hs, htrail⟩ := ih
    rw [trimEnd]
    cases ht : trimEnd s with
    | cons d t =>
      rw [ht] at hs
      exact ⟨trail, by rw [hs]; rfl, htrail⟩
    | nil =>
      rw [ht, List.nil_append] at hs
      cases hc : isBlank c with
      | true => exact ⟨c :: trail, by simp [hs], by simp [hc, htrail]⟩
      | false => exact ⟨trail, by simp [hs], htrail⟩

theorem trimEnd_append (h : r.all isBlank = true) (s : List Char) : trimEnd (s ++ r) = trimEnd s := by
  induction s with
  | nil =>
    obtain ⟨trail, hr, -⟩ := exists_trimEnd r
    refine trimEnd_of_blank (List.all_eq_true.2 fun c hc => List.all_eq_true.1 h c ?_)
    rw [hr]
    exact List.mem_append_left _ hc
  | cons c s ih => rw [List.cons_append, trimEnd, trimEnd, ih]

theorem trimEnd_of_last (h : ∀ c, s.getLast? = some c → isBlank c = false) : trimEnd s = s := by
  cases hs : s.getLast? with
  | none =>
    rw [List.getLast?_eq_none_iff.1 hs]
    rfl
  | some c =>
    obtain ⟨t, rfl⟩ := List.getLast?_eq_some_iff.1 hs
    exact trimEnd_concat_of (h c hs) t

/-! ## Both ends -/

theorem bare_trimChars (s : List Char) : Bare (trimChars s) := by
  refine ⟨fun c hc => ?_, fun c hc => isBlank_of_getLast?_trimEnd hc⟩
  obtain ⟨trail, hs, -⟩ := exists_trimEnd (trimStart s)
  refine isBlank_of_head?_trimStart (s := s) ?_
  rw [hs, List.head?_append]
  exact Option.or_eq_some_iff.2 (.inl hc)

theorem trims_trimChars (s : List Char) : Trims s (trimChars s) := by
  obtain ⟨lead, hs, hlead⟩ := exists_trimStart s
  obtain ⟨trail, ht, htrail⟩ := exists_trimEnd (trimStart s)
  refine ⟨⟨lead, trail, ?_, hlead, htrail⟩, bare_trimChars s⟩
  calc s = lead ++ trimStart s := hs
    _ = lead ++ (trimChars s ++ trail) := congrArg (lead ++ ·) ht
    _ = lead ++ trimChars s ++ trail := (List.append_assoc _ _ _).symm

theorem Trims.eq (h : Trims s t) : trimChars s = t := by
  obtain ⟨⟨lead, trail, rfl, hlead, htrail⟩, hbare⟩ := h
  have hstart : trimStart (t ++ trail) = t ++ trail ∨ t = [] ∧ trimStart (t ++ trail) = [] := by
    cases t with
    | nil =>
      have htrim := trimStart_append htrail []
      rw [List.append_nil] at htrim
      exact .inr ⟨rfl, htrim⟩
    | cons c t => exact .inl (trimStart_cons_of (hbare.head c rfl) _)
  rw [trimChars, List.append_assoc, trimStart_append hlead]
  rcases hstart with hstart | ⟨rfl, hstart⟩
  · rw [hstart, trimEnd_append htrail, trimEnd_of_last hbare.last]
  · rw [hstart, trimEnd_nil]

/-- Every text has one trimming. -/
theorem trims_iff : Trims s t ↔ trimChars s = t := by
  constructor
  · exact Trims.eq
  · rintro rfl
    exact trims_trimChars s

/-- Blanks around a text are trimmed away with its own. -/
theorem trimChars_between (hl : l.all isBlank = true) (hr : r.all isBlank = true) (s : List Char) :
    trimChars (l ++ s ++ r) = trimChars s := by
  obtain ⟨⟨lead, trail, hs, hlead, htrail⟩, hbare⟩ := trims_trimChars s
  refine Trims.eq ⟨⟨l ++ lead, trail ++ r, ?_, ?_, ?_⟩, hbare⟩
  · calc l ++ s ++ r = l ++ (lead ++ trimChars s ++ trail) ++ r := by rw [← hs]
      _ = l ++ lead ++ trimChars s ++ (trail ++ r) := by simp only [List.append_assoc]
  · rw [List.all_append, hl, hlead]
    rfl
  · rw [List.all_append, htrail, hr]
    rfl

/-! ## Around a core -/

theorem trimStart_append_of_head {c : Char} (h : isBlank c = false) (l s : List Char) :
    trimStart (l ++ c :: s) = trimStart l ++ c :: s := by
  induction l with
  | nil => exact trimStart_cons_of h s
  | cons d l ih =>
    cases hd : isBlank d with
    | true =>
      have hskip (t : List Char) : trimStart (d :: t) = trimStart t := trimStart_append (l := [d]) (by simp [hd]) t
      rw [List.cons_append, hskip, hskip, ih]
    | false => rw [List.cons_append, trimStart_cons_of hd, trimStart_cons_of hd, List.cons_append]

theorem trimEnd_append_of_last {c : Char} (h : isBlank c = false) (l s : List Char) :
    trimEnd (l ++ [c] ++ s) = l ++ [c] ++ trimEnd s := by
  induction l with
  | nil =>
    rw [List.nil_append, List.singleton_append, trimEnd]
    cases trimEnd s <;> simp [h]
  | cons d l ih =>
    rw [List.cons_append, List.cons_append, trimEnd, ih]
    cases l <;> rfl

/-- What stands around a text that neither starts nor ends with a blank is trimmed at its own outer ends. -/
theorem trimChars_around {w : List Char} (hne : w ≠ []) (bare : Bare w) (l r : List Char) :
    trimChars (l ++ w ++ r) = trimStart l ++ w ++ trimEnd r := by
  have hstart : trimStart (l ++ w ++ r) = trimStart l ++ w ++ r := by
    cases w with
    | nil => exact absurd rfl hne
    | cons c w =>
      rw [List.append_assoc, List.append_assoc, List.cons_append]
      exact trimStart_append_of_head (bare.head c rfl) l (w ++ r)
  obtain ⟨c, hc⟩ := Option.ne_none_iff_exists'.1 (mt List.getLast?_eq_none_iff.1 hne)
  obtain ⟨m, rfl⟩ := List.getLast?_eq_some_iff.1 hc
  rw [trimChars, hstart, ← List.append_assoc (trimStart l), trimEnd_append_of_last (bare.last c hc)]

end AgentTrial.Text
