import AgentTrial.Text.Search
import Mathlib.Data.List.Induction

/-!
# Mark — texts that are cut at a character

A character that stands in neither part marks where one part ends and the other begins, so that the parts are known
from the whole, and from an end of the whole as far as that reaches.

* `append_cons_inj`, `append_cons_inj_last`: the parts before the first mark, and those after the last one.
* `suffix_of_suffix_cons`, `eq_of_suffix_cons`: what ends a text ends it after the last mark.
* `intercalate_inj`: texts with a mark between each two of them are told apart in the whole.
-/

namespace AgentTrial.Text

section Lists

variable {α : Type} {c d : α} {l m p r t : List α}

/-- Two texts are the same up to their first mark, and after it. -/
theorem append_cons_inj (hl : c ∉ l) (hm : c ∉ m) (h : l ++ c :: r = m ++ c :: t) : l = m ∧ r = t := by
  induction l generalizing m with
  | nil =>
    cases m with
    | nil => exact ⟨rfl, (List.cons.inj h).2⟩
    | cons d m =>
      obtain ⟨rfl, -⟩ := List.cons.inj h
      exact absurd List.mem_cons_self hm
  | cons d l ih =>
    cases m with
    | nil =>
      obtain ⟨rfl, -⟩ := List.cons.inj h
      exact absurd List.mem_cons_self hl
    | cons e m =>
      obtain ⟨rfl, htail⟩ := List.cons.inj h
      obtain ⟨rfl, hr⟩ := ih (fun hc => hl (List.mem_cons_of_mem _ hc)) (fun hc => hm (List.mem_cons_of_mem _ hc)) htail
      exact ⟨rfl, hr⟩

/-- Two texts are the same after their last mark, and before it. -/
theorem append_cons_inj_last (hr : c ∉ r) (ht : c ∉ t) (h : l ++ c :: r = m ++ c :: t) : l = m ∧ r = t := by
  have hrev : r.reverse ++ c :: l.reverse = t.reverse ++ c :: m.reverse := by
    have := congrArg List.reverse h
    simpa using this
  have hparts := append_cons_inj (fun hc => hr (List.mem_reverse.1 hc)) (fun hc => ht (List.mem_reverse.1 hc)) hrev
  exact ⟨List.reverse_inj.1 hparts.2, List.reverse_inj.1 hparts.1⟩

/-- What ends a text and has no mark ends what follows a mark. -/
theorem suffix_of_suffix_cons (hp : c ∉ p) (h : p <:+ l ++ c :: r) : p <:+ r := by
  have hr : r <:+ l ++ c :: r := ⟨l ++ [c], by simp⟩
  rcases List.suffix_or_suffix_of_suffix h hr with hpr | ⟨before, hbefore⟩
  · exact hpr
  · -- `p` reaches at least as far as the mark unless nothing stands before `r` in it
    cases before using List.reverseRecOn with
    | nil => exact ⟨[], by simpa using hbefore.symm⟩
    | append_singleton before d =>
      have hd : p = before ++ d :: r := by simpa using hbefore.symm
      obtain ⟨start, hstart⟩ := h
      have hsame : (start ++ before) ++ d :: r = l ++ c :: r := by rw [← hstart, hd, List.append_assoc]
      obtain ⟨-, hcons⟩ := List.append_inj' hsame rfl
      obtain ⟨rfl, -⟩ := List.cons.inj hcons
      exact absurd (by simp [hd]) hp

/-- What follows the last mark is known from every end of the text that has a mark. -/
theorem eq_of_suffix_cons (hr : c ∉ r) (ht : c ∉ t) (h : l ++ c :: r <:+ m ++ c :: t) : r = t := by
  obtain ⟨before, hbefore⟩ := h
  rw [← List.append_assoc] at hbefore
  exact (append_cons_inj_last hr ht hbefore).2

/-- Texts with a mark between each two of them consist of their own characters and the mark. -/
theorem mem_of_mem_intercalate {l : List (List α)} (h : d ∈ [c].intercalate l) : d = c ∨ ∃ w ∈ l, d ∈ w := by
  induction l with
  | nil =>
    rw [List.intercalate_nil] at h
    cases h
  | cons w l ih =>
    cases l with
    | nil =>
      rw [List.intercalate_singleton] at h
      exact .inr ⟨w, List.mem_cons_self, h⟩
    | cons w' l =>
      rw [List.intercalate_cons_cons] at h
      rcases List.mem_append.1 h with hfirst | hrest
      · rcases List.mem_append.1 hfirst with hw | hc
        · exact .inr ⟨w, List.mem_cons_self, hw⟩
        · exact .inl (List.mem_singleton.1 hc)
      · obtain hd | ⟨v, hv, hd⟩ := ih hrest
        · exact .inl hd
        · exact .inr ⟨v, List.mem_cons_of_mem _ hv, hd⟩

theorem intercalate_cons_ne_nil {w : List α} (hw : w ≠ []) (l : List (List α)) : [c].intercalate (w :: l) ≠ [] := by
  cases l with
  | nil => rwa [List.intercalate_singleton]
  | cons w' l =>
    rw [List.intercalate_cons_cons]
    exact List.append_ne_nil_of_left_ne_nil (List.append_ne_nil_of_left_ne_nil hw _) _

theorem intercalate_cons_cons_eq (w w' : List α) (l : List (List α)) :
    [c].intercalate (w :: w' :: l) = w ++ c :: [c].intercalate (w' :: l) := by
  rw [List.intercalate_cons_cons, List.append_assoc, List.singleton_append]

theorem infix_intercalate {sep w : List α} {l : List (List α)} (h : w ∈ l) : w <:+: sep.intercalate l := by
  induction l with
  | nil => cases h
  | cons v l ih =>
    cases l with
    | nil => exact ⟨[], [], by simp [List.mem_singleton.1 h, List.intercalate_singleton]⟩
    | cons v' l =>
      rw [List.intercalate_cons_cons]
      rcases List.mem_cons.1 h with rfl | hrest
      · exact ⟨[], sep ++ sep.intercalate (v' :: l), by simp⟩
      · exact (ih hrest).trans (List.suffix_append _ _).isInfix

/-- What ends every text ends the whole. -/
theorem suffix_intercalate {sep : List α} {l : List (List α)} (hne : l ≠ []) (h : ∀ w ∈ l, t <:+ w) :
    t <:+ sep.intercalate l := by
  induction l with
  | nil => exact absurd rfl hne
  | cons v l ih =>
    cases l with
    | nil =>
      rw [List.intercalate_singleton]
      exact h v List.mem_cons_self
    | cons v' l =>
      rw [List.intercalate_cons_cons]
      exact (ih (List.cons_ne_nil v' l) (List.forall_mem_cons.1 h).2).trans (List.suffix_append _ _)

/-- Texts that are not empty and do not contain the mark are known from the whole, and so is their number. -/
theorem intercalate_inj {l m : List (List α)} (hl : ∀ w ∈ l, w ≠ [] ∧ c ∉ w) (hm : ∀ w ∈ m, w ≠ [] ∧ c ∉ w)
    (h : [c].intercalate l = [c].intercalate m) : l = m := by
  have single {w v v' : List α} {m : List (List α)} (hw : c ∉ w) :
      [c].intercalate [w] ≠ [c].intercalate (v :: v' :: m) := by
    intro h
    rw [List.intercalate_singleton, intercalate_cons_cons_eq] at h
    exact hw (h ▸ List.mem_append_right v List.mem_cons_self)
  induction l generalizing m with
  | nil =>
    cases m with
    | nil => rfl
    | cons v m => exact absurd h.symm (intercalate_cons_ne_nil (hm v List.mem_cons_self).1 m)
  | cons w l ih =>
    obtain ⟨hw, hrest⟩ := List.forall_mem_cons.1 hl
    cases m with
    | nil => exact absurd h (intercalate_cons_ne_nil hw.1 l)
    | cons v m =>
      obtain ⟨hv, hrest'⟩ := List.forall_mem_cons.1 hm
      cases l with
      | nil =>
        cases m with
        | nil => rwa [List.intercalate_singleton, List.intercalate_singleton, ← List.singleton_inj] at h
        | cons v' m => exact absurd h (single hw.2)
      | cons w' l =>
        cases m with
        | nil => exact absurd h.symm (single hv.2)
        | cons v' m =>
          rw [intercalate_cons_cons_eq, intercalate_cons_cons_eq] at h
          obtain ⟨rfl, htail⟩ := append_cons_inj hw.2 hv.2 h
          rw [ih hrest hrest' htail]

end Lists

theorem endsWith_iff {p s : List Char} : endsWith p s = true ↔ p <:+ s := by
  unfold endsWith
  constructor
  · intro h
    obtain ⟨r, hr⟩ := Option.isSome_iff_exists.1 h
    have hs : s.reverse = p.reverse ++ r := after?_some hr
    exact ⟨r.reverse, by rw [← List.reverse_reverse s, hs]; simp⟩
  · rintro ⟨before, rfl⟩
    rw [List.reverse_append, after?_append]
    rfl

end AgentTrial.Text
