import AgentTrial.Decimal.Binary
import Mathlib

/-!
# Value — the exact value of a double

A finite double is a rational number.  Doubles are compared by sign, exponent and mantissa, and that is the comparison
of their values, because a mantissa is as long as its exponent lets it be.

* `unpack_eq`: the parts that doubles are printed by are the parts that they are compared by.
* `value?`: the value, which an infinity and what is no number do not have.
* `le_iff`: doubles are compared like their values.
* `between_iff`: what lies between two numbers is a number.
-/

namespace AgentTrial.Decimal

open Float.Model Float.Model.UnpackedFloat

/-! ## The parts of a double -/

/-- A sign bit as a sign. -/
def signOf (negative : Bool) : Sign := if negative then .negative else .positive

/-- A double of these parts. -/
def Binary.ofParts (negative : Bool) (biased fraction : Nat) : Binary :=
  if biased = 2047 then if fraction = 0 then .infinity negative else .nan
  else if biased = 0 then .finite negative fraction (-1074)
  else .finite negative (2 ^ 52 + fraction) ((biased : Int) - 1075)

/-- The parts by which doubles are compared; zero has no mantissa there. -/
def Binary.unpacked : Binary → UnpackedFloat
  | .nan => .notANumber
  | .infinity negative => .infinity (signOf negative)
  | .finite negative mant exp =>
    if h : 0 < mant then .finite (signOf negative) mant exp h else .zero (signOf negative)

theorem Binary.ofBits_eq (n : Nat) :
    ofBits n = ofParts (n / 2 ^ 63 % 2 == 1) (n / 2 ^ 52 % 2 ^ 11) (n % 2 ^ 52) := by
  have hpow (k : Nat) : Nat.pow 2 k = 2 ^ k := rfl
  unfold ofBits ofParts
  simp only [beq_iff_eq, hpow]

theorem ofBitVec_eq (s : BitVec 1) : Sign.ofBitVec s = signOf (s.toNat == 1) := by
  have hzero : s = 0#1 ↔ s.toNat = 0 := BitVec.toNat_inj.symm
  have hbit : s.toNat = 0 ∨ s.toNat = 1 := by omega
  rcases hbit with h | h <;> simp [Sign.ofBitVec, signOf, hzero, h]

section Unpack

variable (b : BitVec 64)

theorem toNat_unpackMantissa : (@unpackMantissa .binary64 b).toNat = b.toNat % 2 ^ 52 := by
  simp [unpackMantissa]

theorem toNat_unpackExponent : (@unpackExponent .binary64 b).toNat = b.toNat / 2 ^ 52 % 2 ^ 11 := by
  simp [unpackExponent, Nat.shiftRight_eq_div_pow]

theorem toNat_unpackSign : (@unpackSign .binary64 b).toNat = b.toNat / 2 ^ 63 % 2 := by
  simp [unpackSign, Nat.shiftRight_eq_div_pow]

theorem toNat_implicit (m : BitVec 52) : (1#1 ++ m).toNat = 2 ^ 52 + m.toNat := by
  have hor := Nat.two_pow_add_eq_or_of_lt m.isLt 1
  rw [BitVec.toNat_append, Nat.shiftLeft_eq, BitVec.toNat_ofNat, Nat.mul_comm]
  exact hor.symm

/-- The parts that doubles are printed by are the parts that they are compared by. -/
theorem unpack_eq : UnpackedFloat.unpack Format.binary64 b = (Binary.ofBits b.toNat).unpacked := by
  rw [Binary.ofBits_eq, ← toNat_unpackMantissa b, ← toNat_unpackExponent b, ← toNat_unpackSign b]
  have hfull : @unpackExponent .binary64 b = -1#11 ↔
      (@unpackExponent .binary64 b).toNat = 2047 := BitVec.toNat_inj.symm
  have hempty : @unpackExponent .binary64 b = 0#11 ↔
      (@unpackExponent .binary64 b).toNat = 0 := BitVec.toNat_inj.symm
  have hzero : @unpackMantissa .binary64 b = 0#52 ↔
      (@unpackMantissa .binary64 b).toNat = 0 := BitVec.toNat_inj.symm
  have hsign := ofBitVec_eq (@unpackSign .binary64 b)
  unfold UnpackedFloat.unpack
  dsimp only
  split_ifs with hspecial hfraction hsubnormal hfraction
  · rw [Binary.ofParts, if_pos (hfull.1 hspecial), if_pos (hzero.1 hfraction), hsign]
    rfl
  · rw [Binary.ofParts, if_pos (hfull.1 hspecial), if_neg (mt hzero.2 hfraction)]
    rfl
  · rw [Binary.ofParts, if_neg (mt hfull.2 hspecial), if_pos (hempty.1 hsubnormal), hsign, Binary.unpacked,
      dif_neg (by rw [hzero.1 hfraction]; decide)]
  · rw [Binary.ofParts, if_neg (mt hfull.2 hspecial), if_pos (hempty.1 hsubnormal), hsign, Binary.unpacked,
      dif_pos (Nat.pos_of_ne_zero (mt hzero.2 hfraction))]
    congr 1
    rw [hempty.1 hsubnormal]
    decide
  · rw [Binary.ofParts, if_neg (mt hfull.2 hspecial), if_neg (mt hempty.2 hsubnormal), hsign, Binary.unpacked,
      dif_pos (by omega)]
    congr 1
    exact toNat_implicit _

end Unpack

theorem le_iff_unpacked {x y : Float} :
    x ≤ y ↔ (Binary.ofFloat x).unpacked.le (Binary.ofFloat y).unpacked = true := by
  change decide ((UnpackedFloat.unpack Format.binary64 _).le (UnpackedFloat.unpack Format.binary64 _) = true) = true ↔ _
  rw [decide_eq_true_eq, unpack_eq, unpack_eq]
  rfl

/-! ## Mantissas and exponents -/

/-- The mantissa is as long as the exponent lets it be. -/
def Binary.Regular : Binary → Prop
  | .finite _ mant exp => mant < 2 ^ 53 ∧ -1074 ≤ exp ∧ (2 ^ 52 ≤ mant ∨ exp = -1074)
  | _ => True

theorem Binary.regular_ofBits (n : Nat) : (ofBits n).Regular := by
  have hfraction : n % 2 ^ 52 < 2 ^ 52 := Nat.mod_lt _ (by decide)
  rw [ofBits_eq]
  generalize n % 2 ^ 52 = fraction at hfraction ⊢
  generalize n / 2 ^ 52 % 2 ^ 11 = biased
  unfold ofParts
  split_ifs with hspecial hzero hsubnormal
  · trivial
  · trivial
  · exact ⟨by omega, by decide, .inr rfl⟩
  · exact ⟨by omega, by omega, .inl (by omega)⟩

section Magnitude

variable {m m' : Nat} {e e' : Int} {n n' : Bool}

theorem magnitude_pos (h : 0 < m) (e : Int) : (0 : Rat) < m * 2 ^ e :=
  mul_pos (Nat.cast_pos.2 h) (zpow_pos (by norm_num) e)

/-- The greater exponent decides. -/
theorem magnitude_lt (short : m < 2 ^ 53) (low : -1074 ≤ e) (long : 2 ^ 52 ≤ m' ∨ e' = -1074) (h : e < e') :
    (m : Rat) * 2 ^ e < m' * 2 ^ e' := by
  have hlong : 2 ^ 52 ≤ m' := long.resolve_right (by omega)
  calc (m : Rat) * 2 ^ e < 2 ^ 53 * 2 ^ e :=
        mul_lt_mul_of_pos_right (by exact_mod_cast short) (zpow_pos (by norm_num) e)
    _ = 2 ^ 52 * 2 ^ (e + 1) := by rw [zpow_add_one₀ (by norm_num)]; ring
    _ ≤ m' * 2 ^ e' :=
        mul_le_mul (by exact_mod_cast hlong) (zpow_le_zpow_right₀ (by norm_num) h) (zpow_nonneg (by norm_num) _)
          (Nat.cast_nonneg _)

/-- Comparing the exponents and then the mantissas is comparing the magnitudes. -/
theorem compare_magnitude (h : (Binary.finite n m e).Regular) (h' : (Binary.finite n' m' e').Regular) :
    (compare e e').then (compare m m') = compare ((m : Rat) * 2 ^ e) (m' * 2 ^ e') := by
  obtain ⟨short, low, long⟩ := h
  obtain ⟨short', low', long'⟩ := h'
  rcases lt_trichotomy e e' with hlt | rfl | hgt
  · rw [Int.compare_eq_lt.2 hlt, compare_lt_iff_lt.2 (magnitude_lt short low long' hlt)]
    rfl
  · have hpos : (0 : Rat) < 2 ^ e := zpow_pos (by norm_num) e
    rw [Int.compare_eq_eq.2 rfl, Ordering.eq_then]
    rcases lt_trichotomy m m' with hlt | rfl | hgt
    · rw [Nat.compare_eq_lt.2 hlt, compare_lt_iff_lt.2 (mul_lt_mul_of_pos_right (Nat.cast_lt.2 hlt) hpos)]
    · rw [Nat.compare_eq_eq.2 rfl, compare_eq_iff_eq.2 rfl]
    · rw [Nat.compare_eq_gt.2 hgt, compare_gt_iff_gt.2 (mul_lt_mul_of_pos_right (Nat.cast_lt.2 hgt) hpos)]
  · rw [Int.compare_eq_gt.2 hgt, compare_gt_iff_gt.2 (magnitude_lt short' low' long hgt)]
    rfl

end Magnitude

/-! ## Values -/

/-- The value of the parts of a double. -/
def Binary.value? : Binary → Option Rat
  | .finite negative mant exp => some ((if negative then -1 else 1) * (mant * 2 ^ exp))
  | _ => none

/-- The exact value of a double; an infinity and what is no number have none. -/
def value? (x : Float) : Option Rat := (Binary.ofFloat x).value?

theorem value?_zero : value? 0 = some 0 := by
  have h : Binary.ofFloat 0 = .finite false 0 (-1074) := by decide
  rw [value?, h]
  norm_num [Binary.value?]

theorem value?_one : value? 1 = some 1 := by
  have h : Binary.ofFloat 1 = .finite false (2 ^ 52) (-52) := by decide
  rw [value?, h]
  norm_num [Binary.value?]

theorem value?_hundred : value? 100 = some 100 := by
  have h : Binary.ofFloat 100 = .finite false (25 * 2 ^ 48) (-46) := by decide
  rw [value?, h]
  norm_num [Binary.value?]

section Order

variable {v w : Rat}

theorem isLE_compare : (compare v w).isLE = true ↔ v ≤ w := by
  rw [← Ordering.ne_gt_iff_isLE, ← not_lt]
  exact not_congr compare_gt_iff_gt

theorem isLE_swap_compare : (compare v w).swap.isLE = true ↔ w ≤ v := by
  have hswap : compare w v = (compare v w).swap := Std.OrientedCmp.eq_swap
  rw [← isLE_compare, hswap]

namespace Binary

variable {a b c : Binary}

theorem of_value? (h : a.value? = some v) : ∃ n m e, a = finite n m e ∧ v = (if n then -1 else 1) * (m * 2 ^ e) := by
  cases a with
  | finite n m e => exact ⟨n, m, e, rfl, (Option.some.inj h).symm⟩
  | _ => cases h

theorem le_iff (ha : a.Regular) (hb : b.Regular) (hv : a.value? = some v) (hw : b.value? = some w) :
    a.unpacked.le b.unpacked = true ↔ v ≤ w := by
  obtain ⟨n, m, e, rfl, rfl⟩ := of_value? hv
  obtain ⟨n', m', e', rfl, rfl⟩ := of_value? hw
  have hcompare := compare_magnitude ha hb
  clear hv hw ha hb
  -- zeros are set apart in the order, and so are the signs
  rcases Nat.eq_zero_or_pos m with rfl | hm
  · rcases Nat.eq_zero_or_pos m' with rfl | hm'
    · simp [unpacked, UnpackedFloat.le, UnpackedFloat.compare]
    · have hpos := magnitude_pos hm' e'
      cases n' <;> simp [unpacked, signOf, UnpackedFloat.le, UnpackedFloat.compare, hm', hpos.le, hpos]
  · have hpos := magnitude_pos hm e
    rcases Nat.eq_zero_or_pos m' with rfl | hm'
    · cases n <;> simp [unpacked, signOf, UnpackedFloat.le, UnpackedFloat.compare, hm, hpos.le, hpos]
    · have hpos' := magnitude_pos hm' e'
      cases n <;> cases n' <;>
        simp [unpacked, signOf, UnpackedFloat.le, UnpackedFloat.compare, hm, hm', hcompare, isLE_compare,
          -Ordering.isLE_swap, isLE_swap_compare]
      · linarith
      · linarith

/-- What lies between two numbers is a number. -/
theorem exists_value?_of_between (ha : a.value? = some v) (hc : c.value? = some w)
    (hab : a.unpacked.le b.unpacked = true) (hbc : b.unpacked.le c.unpacked = true) : ∃ u, b.value? = some u := by
  obtain ⟨n, m, e, rfl, -⟩ := of_value? ha
  obtain ⟨n', m', e', rfl, -⟩ := of_value? hc
  cases b with
  | finite => exact ⟨_, rfl⟩
  | nan =>
    have hnone (u : UnpackedFloat) : u.compare .notANumber = none := by cases u <;> rfl
    rw [UnpackedFloat.le, unpacked, hnone] at hab
    cases hab
  | infinity negative =>
    cases negative with
    | false =>
      rw [unpacked, unpacked] at hbc
      split_ifs at hbc <;> cases hbc
    | true =>
      rw [unpacked, unpacked] at hab
      split_ifs at hab <;> cases hab

end Binary

variable {x y lo hi : Float}

/-- Doubles are compared like their values. -/
theorem le_iff (hv : value? x = some v) (hw : value? y = some w) : x ≤ y ↔ v ≤ w :=
  le_iff_unpacked.trans (Binary.le_iff (Binary.regular_ofBits _) (Binary.regular_ofBits _) hv hw)

/-- A double that is a number between two others. -/
def Between (v w : Rat) (x : Float) : Prop := ∃ u, value? x = some u ∧ v ≤ u ∧ u ≤ w

theorem between_iff (hv : value? lo = some v) (hw : value? hi = some w) : lo ≤ x ∧ x ≤ hi ↔ Between v w x := by
  constructor
  · rintro ⟨hlo, hhi⟩
    obtain ⟨u, hu⟩ := Binary.exists_value?_of_between hv hw (le_iff_unpacked.1 hlo) (le_iff_unpacked.1 hhi)
    exact ⟨u, hu, (le_iff hv hu).1 hlo, (le_iff hu hw).1 hhi⟩
  · rintro ⟨u, hu, hlo, hhi⟩
    exact ⟨(le_iff hv hu).2 hlo, (le_iff hu hw).2 hhi⟩

end Order

end AgentTrial.Decimal
