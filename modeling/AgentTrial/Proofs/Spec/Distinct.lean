import AgentTrial.Proofs.Spec.Problem
import Mathlib.Data.List.Induction
import Mathlib.Data.List.Nodup

/-!
# Distinct — every name of a table once

A table is a list of pairs, and what is meant are the lists without a name twice.  Insertion keeps to them, and a list
that is one already is its own table.

* `Table.keys_ofPairs`, `Table.get?_ofPairs`: a table has the first place and the last value of a name.
* `Table.nodup_ofPairs`, `Table.ofPairs_of_nodup`: tables have every name once, and keep the order of their pairs.
* `Specification.Distinct`: the same of every table of a specification, at any depth.
-/

namespace AgentTrial

namespace Table

variable {α : Type} {k : String} {v : α} {t : Table α}

theorem get?_of_mem (nodup : t.keys.Nodup) (h : (k, v) ∈ t) : get? k t = some v := by
  induction t with
  | nil => cases h
  | cons p t ih =>
    obtain ⟨k', v'⟩ := p
    obtain ⟨hnew, nodup⟩ := List.nodup_cons.1 nodup
    rcases List.mem_cons.1 h with heq | h
    · obtain ⟨rfl, rfl⟩ := Prod.mk.inj heq
      rw [get?, if_pos rfl]
    · have hne : k' ≠ k := by
        rintro rfl
        exact hnew (List.mem_map.2 ⟨_, h, rfl⟩)
      rw [get?, if_neg hne, ih nodup h]

theorem get?_eq_some_iff (nodup : t.keys.Nodup) : get? k t = some v ↔ (k, v) ∈ t :=
  ⟨mem_of_get?, get?_of_mem nodup⟩

theorem keys_insert (k : String) (v : α) (t : Table α) :
    (insert k v t).keys = if k ∈ t.keys then t.keys else t.keys ++ [k] := by
  induction t with
  | nil => rfl
  | cons p t ih =>
    obtain ⟨k', v'⟩ := p
    rw [insert]
    by_cases hk : k' = k
    · simp [keys, hk]
    · rw [if_neg hk]
      simp only [keys, List.map_cons, List.mem_cons, Ne.symm hk, false_or] at ih ⊢
      by_cases ht : k ∈ t.map Prod.fst <;> simp [ih, ht]

theorem nodup_insert (nodup : t.keys.Nodup) (k : String) (v : α) : (insert k v t).keys.Nodup := by
  rw [keys_insert]
  split_ifs with hk
  · exact nodup
  · exact List.Nodup.append nodup (List.nodup_singleton k) (by simpa using hk)

theorem insert_of_notMem (h : k ∉ t.keys) (v : α) : insert k v t = t ++ [(k, v)] := by
  induction t with
  | nil => rfl
  | cons p t ih =>
    obtain ⟨k', v'⟩ := p
    simp only [keys, List.map_cons, List.mem_cons, not_or] at h
    rw [insert, if_neg (Ne.symm h.1), ih h.2]
    rfl

/-- The pairs are set one by one. -/
theorem ofPairs_eq (pairs : List (String × α)) : ofPairs pairs = pairs.foldl (fun t e => insert e.1 e.2 t) [] := rfl

theorem ofPairs_append_singleton (pairs : List (String × α)) (k : String) (v : α) :
    ofPairs (pairs ++ [(k, v)]) = insert k v (ofPairs pairs) := by
  rw [ofPairs_eq, List.foldl_append, ← ofPairs_eq]
  rfl

/-- Names stand where they are set first. -/
theorem keys_ofPairs (pairs : List (String × α)) : (ofPairs pairs).keys = (pairs.map Prod.fst).eraseDups := by
  induction pairs using List.reverseRecOn with
  | nil => rfl
  | append_singleton pairs p ih =>
    obtain ⟨k, v⟩ := p
    rw [ofPairs_append_singleton, keys_insert, ih, List.map_append, List.eraseDups_append]
    by_cases hk : k ∈ pairs.map Prod.fst <;> simp [List.removeAll, List.eraseDups_cons, hk]

/-- Names have the value that is set last. -/
theorem get?_ofPairs (pairs : List (String × α)) (k : String) :
    get? k (ofPairs pairs) = ((pairs.filter (·.1 = k)).getLast?).map Prod.snd := by
  induction pairs using List.reverseRecOn with
  | nil => rfl
  | append_singleton pairs p ih =>
    obtain ⟨j, v⟩ := p
    rw [ofPairs_append_singleton, get?_insert, ih, List.filter_append]
    by_cases hj : j = k <;> simp [hj]

/-- A table has every name once, whatever pairs it is made of. -/
theorem nodup_ofPairs (pairs : List (String × α)) : (ofPairs pairs).keys.Nodup := by
  induction pairs using List.reverseRecOn with
  | nil => exact List.nodup_nil
  | append_singleton pairs p ih =>
    rw [ofPairs_append_singleton]
    exact nodup_insert ih _ _

theorem mem_of_mem_insert {e : String × α} (h : e ∈ insert k v t) : e = (k, v) ∨ e ∈ t := by
  induction t with
  | nil => exact .inl (List.mem_singleton.1 h)
  | cons p t ih =>
    obtain ⟨k', v'⟩ := p
    rw [insert] at h
    split_ifs at h with hk
    · rcases List.mem_cons.1 h with rfl | h
      · exact .inl (by rw [hk])
      · exact .inr (List.mem_cons_of_mem _ h)
    · rcases List.mem_cons.1 h with rfl | h
      · exact .inr List.mem_cons_self
      · exact (ih h).imp_right (List.mem_cons_of_mem _)

/-- The entries of a table are among the pairs that it is made of. -/
theorem mem_of_mem_ofPairs {e : String × α} {pairs : List (String × α)} (h : e ∈ ofPairs pairs) : e ∈ pairs := by
  induction pairs using List.reverseRecOn with
  | nil => cases h
  | append_singleton pairs p ih =>
    rw [ofPairs_append_singleton] at h
    rcases mem_of_mem_insert h with rfl | h
    · exact List.mem_append_right _ List.mem_cons_self
    · exact List.mem_append_left _ (ih h)

/-- Pairs without a name twice are the table that they make. -/
theorem ofPairs_of_nodup (nodup : t.keys.Nodup) : ofPairs t = t := by
  suffices h : ∀ s : Table α, (s.keys ++ t.keys).Nodup → t.foldl (fun t e => insert e.1 e.2 t) s = s ++ t from
    h [] nodup
  induction t with
  | nil => exact fun s _ => (List.append_nil s).symm
  | cons p t ih =>
    intro s hs
    obtain ⟨k, v⟩ := p
    have hnew : k ∉ s.keys := fun hk => (List.disjoint_of_nodup_append hs) hk List.mem_cons_self
    rw [List.foldl_cons, insert_of_notMem hnew, ih (List.nodup_cons.1 nodup).2 _ (by simpa [keys] using hs),
      List.append_assoc]
    rfl

end Table

namespace PropertyType

mutual

/-- Every object has each of its fields once, at any depth. -/
def Distinct : PropertyType → Prop
  | object fields => (Table.keys fields).Nodup ∧ DistinctFields fields
  | _ => True

/-- The same of the type of every field. -/
def DistinctFields : List (String × PropertyType) → Prop
  | [] => True
  | (_, p) :: fields => p.Distinct ∧ DistinctFields fields

end

theorem distinctFields_iff {fields : List (String × PropertyType)} :
    DistinctFields fields ↔ ∀ f ∈ fields, f.2.Distinct := by
  induction fields with
  | nil => simp [DistinctFields]
  | cons f fields ih => simp [DistinctFields, ih]

end PropertyType

/-- Every table of a specification has its names once. -/
structure Specification.Distinct (s : Specification) : Prop where
  schemas : s.schemas.keys.Nodup
  schemaTypes : ∀ e ∈ s.schemas, e.2.Distinct
  generators : s.generators.keys.Nodup
  tools : s.tools.keys.Nodup
  inputs : ∀ e ∈ s.tools, (PropertyType.object e.2.input).Distinct

end AgentTrial
