import AgentTrial.Proofs.Spec.Distinct
import Mathlib.Data.List.Perm.Subperm

/-!
# Same — tables that are equal up to order

Equality of tables does not look at the order of their names.  Equal tables answer every look-up alike, and they are
identical once their names come in the same order.

* `Table.get?_of_same`: look-ups in equal tables find equal values.
* `PropertyType.Outline`: the names of a type in their order, at every depth.
* `PropertyType.eq_of_same`: equal types with the same outline are the same type.
-/

namespace AgentTrial

namespace Table

variable {α : Type} {eq : α → α → Bool} {t u : Table α} {k : String} {v : α}

theorem length_of_same (h : same eq t u = true) : t.length = u.length := by
  rw [same, Bool.and_eq_true, beq_iff_eq] at h
  exact h.1

theorem exists_of_same (h : same eq t u = true) (hv : (k, v) ∈ t) : ∃ w, get? k u = some w ∧ eq v w = true := by
  rw [same, Bool.and_eq_true, List.all_eq_true] at h
  exact (Option.any_eq_true (eq v) (get? k u)).1 (h.2 _ hv)

theorem mem_keys_of_mem (h : (k, v) ∈ t) : k ∈ t.keys := List.mem_map.2 ⟨_, h, rfl⟩

/-- As many names, and none that the other table does not have. -/
theorem mem_keys_iff_of_same (nodup : t.keys.Nodup) (h : same eq t u = true) : k ∈ t.keys ↔ k ∈ u.keys := by
  have hsub : t.keys ⊆ u.keys := by
    intro k hk
    obtain ⟨⟨k, v⟩, hv, rfl⟩ := List.mem_map.1 hk
    obtain ⟨w, hw, -⟩ := exists_of_same h hv
    exact mem_keys_of_mem (mem_of_get? hw)
  have hlength : u.keys.length ≤ t.keys.length := by simp [keys, length_of_same h]
  exact ((nodup.subperm hsub).perm_of_length_le hlength).mem_iff

/-- Look-ups in equal tables find equal values, or nothing in both. -/
theorem get?_of_same (nodup : t.keys.Nodup) (h : same eq t u = true) (k : String) :
    sameOption eq (get? k t) (get? k u) = true := by
  cases ht : get? k t with
  | none =>
    have hu : get? k u = none := by
      rw [get?_eq_none_iff] at ht ⊢
      rwa [← mem_keys_iff_of_same nodup h]
    rw [hu]
    rfl
  | some v =>
    obtain ⟨w, hw, hvw⟩ := exists_of_same h (mem_of_get? ht)
    rw [hw]
    exact hvw

theorem has_of_same (nodup : t.keys.Nodup) (h : same eq t u = true) (k : String) : t.has k = u.has k := by
  have hk := get?_of_same nodup h k
  unfold has
  cases ht : get? k t <;> cases hu : get? k u <;> simp_all [sameOption]

end Table

namespace PropertyType

theorem sameAt_eq (name : String) (p : PropertyType) (others : List (String × PropertyType)) :
    sameAt name p others = (Table.get? name others).any p.same := by
  induction others with
  | nil => rw [sameAt, Table.get?, Option.any_none]
  | cons q others ih =>
    obtain ⟨other, q⟩ := q
    rw [sameAt, Table.get?, ih]
    split_ifs <;> rfl

theorem sameFields_eq (fields others : List (String × PropertyType)) :
    sameFields fields others = fields.all fun (name, p) => (Table.get? name others).any p.same := by
  induction fields with
  | nil => rw [sameFields, List.all_nil]
  | cons p fields ih =>
    obtain ⟨name, p⟩ := p
    rw [sameFields, sameAt_eq, ih, List.all_cons]

/-- Objects are equal when their fields are, as tables. -/
theorem same_object (fields others : List (String × PropertyType)) :
    (object fields).same (object others) = Table.same same fields others := by
  rw [same, sameFields_eq, Table.same]

/-- The names of a property type in their order, at every depth. -/
inductive Outline
  | mk (fields : List (String × Outline))

mutual

/-- The outline of a property type. -/
def outline : PropertyType → Outline
  | object fields => .mk (outlineFields fields)
  | _ => .mk []

/-- The outlines of fields. -/
def outlineFields : List (String × PropertyType) → List (String × Outline)
  | [] => []
  | (name, p) :: fields => (name, p.outline) :: outlineFields fields

end

mutual

/-- Equal types with the same outline are the same type. -/
theorem eq_of_same : ∀ {p q : PropertyType}, q.Distinct → p.same q = true → p.outline = q.outline → p = q
  | object fields, q, distinct, h, ho => by
    cases q with
    | object others =>
      rw [same_object] at h
      rw [outline, outline] at ho
      have hfields := eq_of_sameFields distinct.2 (fun e he => Table.get?_of_mem distinct.1 he)
        (fun e he => Table.exists_of_same h he) (Outline.mk.inj ho)
      rw [hfields]
    | _ => simp [same] at h
  | string, q, _, h, _ => by cases q <;> simp [same] at h ⊢
  | number, q, _, h, _ => by cases q <;> simp [same] at h ⊢
  | boolean, q, _, h, _ => by cases q <;> simp [same] at h ⊢
  | unknown name, q, _, h, _ => by cases q <;> simp_all [same]

theorem eq_of_sameFields : ∀ {fields others all : List (String × PropertyType)}, DistinctFields others →
    (∀ e ∈ others, Table.get? e.1 all = some e.2) →
    (∀ e ∈ fields, ∃ q, Table.get? e.1 all = some q ∧ e.2.same q = true) →
    outlineFields fields = outlineFields others → fields = others
  | [], [], _, _, _, _, _ => rfl
  | [], _ :: _, _, _, _, _, ho => by simp [outlineFields] at ho
  | _ :: _, [], _, _, _, _, ho => by simp [outlineFields] at ho
  | (name, p) :: fields, (other, q) :: others, all, distinct, hothers, hfields, ho => by
    simp only [outlineFields, List.cons.injEq, Prod.mk.injEq] at ho
    obtain ⟨⟨rfl, hp⟩, ho⟩ := ho
    obtain ⟨q', hq', hsame⟩ := hfields (name, p) List.mem_cons_self
    obtain rfl : q = q' := by
      have hq := hothers (name, q) List.mem_cons_self
      exact Option.some.inj (hq.symm.trans hq')
    have hhead : p = q := eq_of_same distinct.1 hsame hp
    have htail : fields = others := eq_of_sameFields distinct.2 (fun e he => hothers e (List.mem_cons_of_mem _ he))
      (fun e he => hfields e (List.mem_cons_of_mem _ he)) ho
    rw [hhead, htail]

end

end PropertyType

end AgentTrial
