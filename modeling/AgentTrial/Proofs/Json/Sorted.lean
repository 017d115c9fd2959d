import AgentTrial.Proofs.Json.Printer
import AgentTrial.Proofs.Spec.Distinct
import Mathlib.Data.List.Induction
import Mathlib.Data.String.Basic

/-!
# Sorted — records in the order of their names

A sorted record has one field of a name, and the order of its fields is that of their names.  So it is known by what is
looked up in it, and sorting the fields of a table changes nothing that is looked up.

* `eq_of_lookup`: sorted fields are the same if the same is looked up in them.
* `lookup_sortFields`, `sortFields_of_ascending`: sorting finds the same values, and keeps what is sorted.
* `canonical_canonical`: a tree with sorted records is not changed by sorting them.
* `depth_canonical_le`, `Whole.canonical`: and it is no deeper than the tree, and has no other numbers.
-/

namespace AgentTrial

namespace Json

/-- Every field has a name before those of the fields behind it. -/
def Ascending (vs : List (String × Json)) : Prop := vs.Pairwise fun e f => e.1 < f.1

section Fields

variable {key : String} {v : Json} {vs ws : List (String × Json)} {e : String × Json}

theorem Ascending.nodup (h : Ascending vs) : (Table.keys vs).Nodup :=
  List.Pairwise.imp (fun hlt => ne_of_lt hlt) (List.pairwise_map.2 h)

theorem mem_of_mem_insertSorted (h : e ∈ insertSorted key v vs) : e = (key, v) ∨ e ∈ vs := by
  induction vs with
  | nil => exact .inl (List.mem_singleton.1 h)
  | cons f vs ih =>
    obtain ⟨k, w⟩ := f
    rw [insertSorted] at h
    split_ifs at h with hbefore hsame
    · exact List.mem_cons.1 h
    · exact (List.mem_cons.1 h).imp_right (List.mem_cons_of_mem _)
    · rcases List.mem_cons.1 h with rfl | h
      · exact .inr List.mem_cons_self
      · exact (ih h).imp_right (List.mem_cons_of_mem _)

theorem ascending_insertSorted (h : Ascending vs) (key : String) (v : Json) : Ascending (insertSorted key v vs) := by
  induction vs with
  | nil => exact List.pairwise_singleton _ _
  | cons f vs ih =>
    obtain ⟨k, w⟩ := f
    obtain ⟨hbehind, hrest⟩ := List.pairwise_cons.1 h
    rw [insertSorted]
    split_ifs with hbefore hsame
    · refine List.pairwise_cons.2 ⟨List.forall_mem_cons.2 ⟨hbefore, fun f hf => ?_⟩, h⟩
      exact hbefore.trans (hbehind f hf)
    · subst hsame
      exact List.pairwise_cons.2 ⟨hbehind, hrest⟩
    · refine List.pairwise_cons.2 ⟨fun f hf => ?_, ih hrest⟩
      rcases mem_of_mem_insertSorted hf with rfl | hf
      · exact lt_of_le_of_ne (not_lt.1 hbefore) (Ne.symm hsame)
      · exact hbehind f hf

theorem sortFields_append_singleton (vs : List (String × Json)) (key : String) (v : Json) :
    sortFields (vs ++ [(key, v)]) = insertSorted key v (sortFields vs) := by
  rw [sortFields, List.foldl_append, ← sortFields]
  rfl

theorem ascending_sortFields (vs : List (String × Json)) : Ascending (sortFields vs) := by
  induction vs using List.reverseRecOn with
  | nil => exact List.Pairwise.nil
  | append_singleton vs f ih =>
    rw [sortFields_append_singleton]
    exact ascending_insertSorted ih _ _

theorem mem_of_mem_sortFields (h : e ∈ sortFields vs) : e ∈ vs := by
  induction vs using List.reverseRecOn with
  | nil => cases h
  | append_singleton vs f ih =>
    rw [sortFields_append_singleton] at h
    rcases mem_of_mem_insertSorted h with rfl | h
    · exact List.mem_append_right _ List.mem_cons_self
    · exact List.mem_append_left _ (ih h)

/-! ## Looking up -/

theorem lookup_eq_get? (key : String) (vs : List (String × Json)) : lookup key vs = Table.get? key vs := by
  induction vs with
  | nil => rfl
  | cons f vs ih => rw [lookup, Table.get?, ih]

/-- The last of several fields of one name is found. -/
theorem lookup_sortFields_reverse (key : String) (vs : List (String × Json)) :
    lookup key (sortFields vs) = lookup key vs.reverse := by
  induction vs using List.reverseRecOn with
  | nil => rfl
  | append_singleton vs f ih =>
    obtain ⟨k, w⟩ := f
    rw [sortFields_append_singleton, lookup_insertSorted, ih, List.reverse_append]
    rfl

/-- Sorting the fields of a table finds the same values. -/
theorem lookup_sortFields (nodup : (Table.keys vs).Nodup) (key : String) :
    lookup key (sortFields vs) = Table.get? key vs := by
  have hreverse : (Table.keys vs.reverse).Nodup := by
    rw [Table.keys, List.map_reverse]
    exact List.nodup_reverse.2 nodup
  rw [lookup_sortFields_reverse, lookup_eq_get?]
  ext v
  rw [Table.get?_eq_some_iff hreverse, Table.get?_eq_some_iff nodup, List.mem_reverse]

/-- Sorted fields are the same if the same is looked up in them. -/
theorem eq_of_lookup (hvs : Ascending vs) (hws : Ascending ws) (h : ∀ key, lookup key vs = lookup key ws) :
    vs = ws := by
  have hmem : ∀ e, e ∈ vs ↔ e ∈ ws := by
    rintro ⟨key, v⟩
    rw [← Table.get?_eq_some_iff hvs.nodup, ← Table.get?_eq_some_iff hws.nodup, ← lookup_eq_get?, ← lookup_eq_get?, h]
  have hperm : vs.Perm ws := (List.perm_ext_iff_of_nodup hvs.nodup.of_map hws.nodup.of_map).2 hmem
  exact hperm.eq_of_pairwise (fun e f _ _ hlt hgt => absurd hgt hlt.asymm) hvs hws

theorem sortFields_of_ascending (h : Ascending vs) : sortFields vs = vs :=
  eq_of_lookup (ascending_sortFields vs) h fun key => by rw [lookup_sortFields h.nodup, lookup_eq_get?]

end Fields

/-! ## Sorting at every level -/

theorem canonicalFields_eq_map (vs : List (String × Json)) :
    canonicalFields vs = vs.map fun e => (e.1, e.2.canonical) := by
  induction vs with
  | nil => rfl
  | cons f vs ih => rw [canonicalFields, ih, List.map_cons]

theorem canonicalFields_insertSorted (key : String) (v : Json) (vs : List (String × Json)) :
    canonicalFields (insertSorted key v vs) = insertSorted key v.canonical (canonicalFields vs) := by
  induction vs with
  | nil => rfl
  | cons f vs ih =>
    obtain ⟨k, w⟩ := f
    rw [insertSorted, canonicalFields, insertSorted]
    split_ifs
    · rfl
    · rfl
    · rw [canonicalFields, ih]

/-- Fields can be sorted before or after the records below them. -/
theorem canonicalFields_sortFields (vs : List (String × Json)) :
    canonicalFields (sortFields vs) = sortFields (canonicalFields vs) := by
  induction vs using List.reverseRecOn with
  | nil => rfl
  | append_singleton vs f ih =>
    have happend : canonicalFields (vs ++ [f]) = canonicalFields vs ++ [(f.1, f.2.canonical)] := by
      rw [canonicalFields_eq_map, canonicalFields_eq_map, List.map_append, List.map_singleton]
    rw [sortFields_append_singleton, canonicalFields_insertSorted, ih, happend, sortFields_append_singleton]

mutual

/-- A tree with sorted records is not changed by sorting them. -/
theorem canonical_canonical : ∀ v : Json, v.canonical.canonical = v.canonical
  | null | bool _ | int _ | float _ | text _ => rfl
  | list items => congrArg list (canonicalItems_canonicalItems items)
  | record vs => by
    rw [canonical, canonical, canonicalFields_sortFields, canonicalFields_canonicalFields,
      sortFields_of_ascending (ascending_sortFields _)]

theorem canonicalItems_canonicalItems : ∀ items : List Json,
    canonicalItems (canonicalItems items) = canonicalItems items
  | [] => rfl
  | v :: items => by
    rw [canonicalItems, canonicalItems, canonical_canonical v, canonicalItems_canonicalItems items]

theorem canonicalFields_canonicalFields : ∀ vs : List (String × Json),
    canonicalFields (canonicalFields vs) = canonicalFields vs
  | [] => rfl
  | (k, v) :: vs => by
    rw [canonicalFields, canonicalFields, canonical_canonical v, canonicalFields_canonicalFields vs]

end

/-! ## What sorting keeps -/

section Bounds

variable {v : Json} {items : List Json} {vs ws : List (String × Json)}

theorem depthFields_sortFields_le (vs : List (String × Json)) : depthFields (sortFields vs) ≤ depthFields vs :=
  depthFields_le_iff.2 fun e he => depthFields_le_iff.1 le_rfl e (mem_of_mem_sortFields he)

mutual

theorem depth_canonical_le : ∀ v : Json, v.canonical.depth ≤ v.depth
  | null | bool _ | int _ | float _ | text _ => le_rfl
  | list items => Nat.succ_le_succ (depthItems_canonicalItems_le items)
  | record vs =>
    Nat.succ_le_succ ((depthFields_sortFields_le _).trans (depthFields_canonicalFields_le vs))

theorem depthItems_canonicalItems_le : ∀ items : List Json, depthItems (canonicalItems items) ≤ depthItems items
  | [] => le_rfl
  | v :: items => max_le_max (depth_canonical_le v) (depthItems_canonicalItems_le items)

theorem depthFields_canonicalFields_le : ∀ vs : List (String × Json), depthFields (canonicalFields vs) ≤ depthFields vs
  | [] => le_rfl
  | (_, v) :: vs => max_le_max (depth_canonical_le v) (depthFields_canonicalFields_le vs)

end

theorem wholeFields_iff : WholeFields vs ↔ ∀ e ∈ vs, e.2.Whole := by
  induction vs with
  | nil => simp [WholeFields]
  | cons f vs ih => simp [WholeFields, ih]

theorem WholeFields.sortFields (h : WholeFields vs) : WholeFields (Json.sortFields vs) :=
  wholeFields_iff.2 fun e he => wholeFields_iff.1 h e (mem_of_mem_sortFields he)

mutual

theorem Whole.canonical : ∀ {v : Json}, v.Whole → v.canonical.Whole
  | null, _ | bool _, _ | text _, _ => trivial
  | int _, h => h
  | list items, h => (show WholeItems items from h).canonical
  | record vs, h => (show WholeFields vs from h).canonical.sortFields

theorem WholeItems.canonical : ∀ {items : List Json}, WholeItems items → WholeItems (canonicalItems items)
  | [], _ => trivial
  | _ :: _, h => ⟨h.1.canonical, h.2.canonical⟩

theorem WholeFields.canonical : ∀ {vs : List (String × Json)}, WholeFields vs → WholeFields (canonicalFields vs)
  | [], _ => trivial
  | _ :: _, h => ⟨h.1.canonical, h.2.canonical⟩

end

end Bounds

end Json

end AgentTrial
