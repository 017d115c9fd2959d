import Mathlib.Algebra.Order.Ring.Int
import Mathlib.Data.String.Basic

/-!
# Order — numbers and texts compared part by part

A number is compared by its quotient and then by its remainder, a text by its first characters and then by the others.

* `compare_mul_add`: two parts of a number, the lesser of which may be large where the greater parts agree.
* `compare_ediv_emod`, `compare_div_mod`: quotient and remainder.
* `Text.compare_toList`, `Text.compare_append`: texts, and texts that start with parts of one length.
-/

namespace AgentTrial

/-! ## Numbers -/

@[norm_cast]
theorem compare_natCast (n m : Nat) : compare (n : Int) m = compare n m := by
  rw [← cmp_eq_compare, ← cmp_eq_compare]
  exact Int.natCast_strictMono.cmp_map_eq n m

/-- A number of two parts is compared by the greater parts first, as long as what the lesser one adds to the lesser
number does not make up for a greater part. -/
theorem compare_mul_add {k r r' : Nat} {q q' : Int} (h : q < q' → r < k) (h' : q' < q → r' < k) :
    (compare q q').then (compare r r') = compare (q * k + r) (q' * k + r') := by
  have hstep {p p' : Int} (hp : p < p') : p * k + k ≤ p' * k := by
    have hle : (p + 1) * k ≤ p' * k := Int.mul_le_mul_of_nonneg_right hp (Int.natCast_nonneg k)
    rwa [Int.add_mul, Int.one_mul] at hle
  rcases lt_trichotomy q q' with hlt | rfl | hgt
  · have hsum : q * k + r < q' * k + r' := by
      have hpart := hstep hlt
      have hr := h hlt
      omega
    rw [compare_lt_iff_lt.2 hlt, Ordering.lt_then, compare_lt_iff_lt.2 hsum]
  · rw [compare_eq_iff_eq.2 rfl, Ordering.eq_then, ← compare_natCast, ← cmp_eq_compare, ← cmp_eq_compare, cmp_add_left]
  · have hsum : q' * k + r' < q * k + r := by
      have hpart := hstep hgt
      have hr := h' hgt
      omega
    rw [compare_gt_iff_gt.2 hgt, Ordering.gt_then, compare_gt_iff_gt.2 hsum]

theorem compare_mul_add_nat {k r r' q q' : Nat} (h : q < q' → r < k) (h' : q' < q → r' < k) :
    (compare q q').then (compare r r') = compare (q * k + r) (q' * k + r') := by
  have hcast : (compare (q : Int) q').then (compare r r') = compare ((q : Int) * k + r) (q' * k + r') :=
    compare_mul_add (fun hq => h (Int.ofNat_lt.1 hq)) (fun hq => h' (Int.ofNat_lt.1 hq))
  exact_mod_cast hcast

theorem compare_ediv_emod {k : Nat} (hk : 0 < k) (a b : Int) :
    (compare (a / k) (b / k)).then (compare (a % k).toNat (b % k).toNat) = compare a b := by
  have hk' : (0 : Int) < k := Int.natCast_pos.2 hk
  have hmod (c : Int) : ((c % k).toNat : Int) = c % k := Int.toNat_of_nonneg (Int.emod_nonneg c hk'.ne')
  have hlt (c : Int) : (c % k).toNat < k := by
    have hc := Int.emod_lt_of_pos c hk'
    omega
  rw [compare_mul_add (fun _ => hlt a) (fun _ => hlt b), hmod, hmod, Int.ediv_mul_add_emod, Int.ediv_mul_add_emod]

theorem compare_div_mod {k : Nat} (hk : 0 < k) (n m : Nat) :
    (compare (n / k) (m / k)).then (compare (n % k) (m % k)) = compare n m := by
  exact_mod_cast compare_ediv_emod hk n m

/-! ## Texts -/

namespace Text

theorem compare_chars_eq_lt_iff {l l' : List Char} : compare l l' = .lt ↔ l < l' := by
  rw [List.compare_eq_compareLex]
  induction l generalizing l' with
  | nil => cases l' <;> simp [List.compareLex_nil_nil, List.compareLex_nil_cons]
  | cons c l ih =>
    cases l' with
    | nil => simp [List.compareLex_cons_nil]
    | cons c' l' =>
      rw [List.compareLex_cons_cons, Ordering.then_eq_lt, List.cons_lt_cons_iff, ih, compare_lt_iff_lt,
        compare_eq_iff_eq]

/-- Texts are compared like the lists of their characters. -/
theorem compare_toList (s s' : String) : compare s.toList s'.toList = compare s s' := by
  cases h : compare s s' with
  | lt => exact compare_chars_eq_lt_iff.2 (String.lt_iff_toList_lt.1 (compare_lt_iff_lt.1 h))
  | eq =>
    rw [compare_eq_iff_eq.1 h]
    exact Std.ReflOrd.compare_self
  | gt =>
    rw [Std.OrientedCmp.gt_iff_lt]
    exact compare_chars_eq_lt_iff.2 (String.lt_iff_toList_lt.1 (compare_gt_iff_gt.1 h))

/-- Texts that start with parts of one length are compared by these parts first. -/
theorem compare_append {l l' k k' : List Char} (same : l.length = l'.length) :
    compare (l ++ k) (l' ++ k') = (compare l l').then (compare k k') := by
  simp only [List.compare_eq_compareLex]
  induction l generalizing l' with
  | nil =>
    cases l' with
    | nil => rfl
    | cons c' l' => cases same
  | cons c l ih =>
    cases l' with
    | nil => cases same
    | cons c' l' =>
      rw [List.cons_append, List.cons_append, List.compareLex_cons_cons, List.compareLex_cons_cons,
        ih (Nat.succ.inj same), Ordering.then_assoc]

end Text

end AgentTrial
