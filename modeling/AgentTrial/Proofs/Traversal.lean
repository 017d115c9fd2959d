import Mathlib.Data.List.Forall2

/-!
# Traversal — lists mapped by a function that may fail

`List.mapM` over `Except` gives the results of the items in order, or the failure of the first item that has one.

* `mapM_eq_error_iff`, `mapM_error_iff`: it fails when some item does, and with the failure of the first such item.
* `mapM_ok_iff`: it gives results when all items do.
* `Alike`: two computations with the same failure or related results; `alike_mapM` lifts it to lists.
-/

namespace AgentTrial

variable {ε α β : Type} {f : α → Except ε β}

theorem of_bind_ok {x : Except ε α} {f : α → Except ε β} {b : β} (h : (x >>= f) = .ok b) :
    ∃ a, x = .ok a ∧ f a = .ok b := by
  cases x with
  | error e => cases h
  | ok a => exact ⟨a, rfl, h⟩

theorem of_map_ok {x : Except ε α} {f : α → β} {b : β} (h : f <$> x = .ok b) : ∃ a, x = .ok a ∧ f a = b := by
  cases x with
  | error e => cases h
  | ok a => exact ⟨a, rfl, Except.ok.inj h⟩

/-- Only what the function gives for the items of the list matters. -/
theorem mapM_congr {g : α → Except ε β} {l : List α} (h : ∀ a ∈ l, f a = g a) : l.mapM f = l.mapM g := by
  induction l with
  | nil => rfl
  | cons a l ih =>
    obtain ⟨ha, hl⟩ := List.forall_mem_cons.1 h
    rw [List.mapM_cons, List.mapM_cons, ha, ih hl]

theorem mapM_cons_of_error {a : α} {e : ε} (ha : f a = .error e) (l : List α) : (a :: l).mapM f = .error e := by
  rw [List.mapM_cons, ha]
  rfl

theorem mapM_cons_of_ok {a : α} {b : β} (ha : f a = .ok b) (l : List α) :
    (a :: l).mapM f = (l.mapM f).map (b :: ·) := by
  rw [List.mapM_cons, ha]
  cases l.mapM f <;> rfl

theorem forall₂_of_mapM {l : List α} {bs : List β} (h : l.mapM f = .ok bs) :
    List.Forall₂ (fun a b => f a = .ok b) l bs := by
  induction l generalizing bs with
  | nil =>
    rw [← Except.ok.inj h]
    exact .nil
  | cons a l ih =>
    cases ha : f a with
    | error e =>
      rw [mapM_cons_of_error ha] at h
      cases h
    | ok b =>
      rw [mapM_cons_of_ok ha] at h
      cases hl : l.mapM f with
      | error e =>
        rw [hl] at h
        cases h
      | ok bs' =>
        rw [hl] at h
        rw [← Except.ok.inj h]
        exact .cons ha (ih hl)

theorem exists_of_mem_forall₂ {R : α → β → Prop} {l : List α} {bs : List β} {b : β} (h : List.Forall₂ R l bs)
    (hb : b ∈ bs) : ∃ a ∈ l, R a b := by
  induction h with
  | nil => cases hb
  | cons hhead _ ih =>
    rcases List.mem_cons.1 hb with rfl | hb
    · exact ⟨_, List.mem_cons_self, hhead⟩
    · obtain ⟨a, ha, hab⟩ := ih hb
      exact ⟨a, List.mem_cons_of_mem _ ha, hab⟩

theorem exists_of_mem_mapM {l : List α} {bs : List β} {b : β} (h : l.mapM f = .ok bs) (hb : b ∈ bs) :
    ∃ a ∈ l, f a = .ok b :=
  exists_of_mem_forall₂ (R := fun a b => f a = .ok b) (forall₂_of_mapM h) hb

/-- The first item that fails decides. -/
theorem split_of_mapM {l : List α} {e : ε} (h : l.mapM f = .error e) :
    ∃ before a after, l = before ++ a :: after ∧ (∀ x ∈ before, ∃ b, f x = .ok b) ∧ f a = .error e := by
  induction l with
  | nil => cases h
  | cons a l ih =>
    cases ha : f a with
    | error e' =>
      rw [mapM_cons_of_error ha] at h
      obtain rfl := Except.error.inj h
      exact ⟨[], a, l, rfl, by simp, ha⟩
    | ok b =>
      rw [mapM_cons_of_ok ha] at h
      have hl : l.mapM f = .error e := by
        cases hl : l.mapM f with
        | error e' =>
          rw [hl] at h
          rw [← Except.error.inj h]
        | ok bs =>
          rw [hl] at h
          cases h
      obtain ⟨before, x, after, rfl, hok, hx⟩ := ih hl
      refine ⟨a :: before, x, after, rfl, fun y hy => ?_, hx⟩
      rcases List.mem_cons.1 hy with rfl | hy
      · exact ⟨b, ha⟩
      · exact hok y hy

theorem ok_of_mem_mapM {l : List α} {bs : List β} (h : l.mapM f = .ok bs) {a : α} (ha : a ∈ l) :
    ∃ b, f a = .ok b := by
  obtain ⟨hlength, hget⟩ := List.forall₂_iff_get.1 (forall₂_of_mapM h)
  obtain ⟨i, hi, rfl⟩ := List.getElem_of_mem ha
  exact ⟨_, hget i hi (hlength ▸ hi)⟩

theorem mapM_append_of_error {before : List α} {a : α} {e : ε} (hbefore : ∀ x ∈ before, ∃ b, f x = .ok b)
    (ha : f a = .error e) (after : List α) : (before ++ a :: after).mapM f = .error e := by
  induction before with
  | nil => exact mapM_cons_of_error ha after
  | cons x before ih =>
    obtain ⟨⟨b, hb⟩, hrest⟩ := List.forall_mem_cons.1 hbefore
    rw [List.cons_append, mapM_cons_of_ok hb, ih hrest]
    rfl

/-- Which failure it is: that of an item with none before it that fails. -/
theorem mapM_eq_error_iff {l : List α} {e : ε} : l.mapM f = .error e ↔
    ∃ before a after, l = before ++ a :: after ∧ (∀ x ∈ before, ∃ b, f x = .ok b) ∧ f a = .error e := by
  constructor
  · exact split_of_mapM
  · rintro ⟨before, a, after, rfl, hbefore, ha⟩
    exact mapM_append_of_error hbefore ha after

theorem mapM_error_iff {l : List α} : (∃ e, l.mapM f = .error e) ↔ ∃ a ∈ l, ∃ e, f a = .error e := by
  constructor
  · rintro ⟨e, h⟩
    obtain ⟨before, a, after, rfl, -, ha⟩ := split_of_mapM h
    exact ⟨a, by simp, e, ha⟩
  · rintro ⟨a, hmem, e, ha⟩
    cases hl : l.mapM f with
    | error e' => exact ⟨e', rfl⟩
    | ok bs =>
      obtain ⟨b, hb⟩ := ok_of_mem_mapM hl hmem
      rw [ha] at hb
      cases hb

theorem mapM_ok_iff {l : List α} : (∃ bs, l.mapM f = .ok bs) ↔ ∀ a ∈ l, ∃ b, f a = .ok b := by
  constructor
  · rintro ⟨bs, h⟩ a ha
    exact ok_of_mem_mapM h ha
  · intro h
    cases hl : l.mapM f with
    | ok bs => exact ⟨bs, rfl⟩
    | error e =>
      obtain ⟨a, ha, e', hfail⟩ := mapM_error_iff.1 ⟨e, hl⟩
      obtain ⟨b, hb⟩ := h a ha
      rw [hb] at hfail
      cases hfail

/-! ## Two computations side by side -/

/-- Both computations fail for the same reason, or both give a result and the results are related. -/
inductive Alike {ε α β : Type} (R : α → β → Prop) : Except ε α → Except ε β → Prop
  | error (e : ε) : Alike R (.error e) (.error e)
  | ok {a : α} {b : β} (h : R a b) : Alike R (.ok a) (.ok b)

section Alike

variable {α' β' : Type} {R : α → α' → Prop} {x : Except ε α} {y : Except ε α'}

theorem Alike.bind {S : β → β' → Prop} {f : α → Except ε β} {g : α' → Except ε β'} (h : Alike R x y)
    (step : ∀ a b, R a b → Alike S (f a) (g b)) : Alike S (x >>= f) (y >>= g) := by
  cases h with
  | error e => exact .error e
  | ok h => exact step _ _ h

theorem Alike.error_iff (h : Alike R x y) (e : ε) : x = .error e ↔ y = .error e := by
  cases h with
  | error e' => exact ⟨fun h => congrArg _ (Except.error.inj h), fun h => congrArg _ (Except.error.inj h)⟩
  | ok h => exact ⟨nofun, nofun⟩

theorem Alike.related (h : Alike R x y) {a : α} {b : α'} (hx : x = .ok a) (hy : y = .ok b) : R a b := by
  cases h with
  | error e => cases hx
  | ok h =>
    obtain rfl := Except.ok.inj hx
    obtain rfl := Except.ok.inj hy
    exact h

/-- Lists of items that come out alike come out alike; what relates their results grows with them. -/
theorem alike_mapM {f : α → Except ε β} {g : α' → Except ε β'} {R : α → α' → β → β' → Prop}
    {S : List α → List α' → List β → List β' → Prop} {l : List α} {l' : List α'} (nil : S [] [] [] [])
    (cons : ∀ {a a' b b' l l' bs bs'}, R a a' b b' → S l l' bs bs' → S (a :: l) (a' :: l') (b :: bs) (b' :: bs'))
    (h : List.Forall₂ (fun a a' => Alike (R a a') (f a) (g a')) l l') : Alike (S l l') (l.mapM f) (l'.mapM g) := by
  induction h with
  | nil => exact .ok nil
  | cons hhead _ ih =>
    rw [List.mapM_cons, List.mapM_cons]
    exact hhead.bind fun b b' hb => ih.bind fun bs bs' hbs => .ok (cons hb hbs)

end Alike

end AgentTrial
