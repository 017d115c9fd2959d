import AgentTrial.Report.Score
import Mathlib

/-!
# Count — what doubles tell of counts

A report compares a percentage of the counted units with a hundred times the passed ones.  In doubles the two products
are rounded to a nearest neighbour.  As long as the last place of a product is at 64 or below, hundreds of different
counts stay apart, so a hundred percent is met by nothing less.

* `Normal`: a double in normal form.
* `normal_ofNat`, `Normal.mul`: counts are exact, and products are off by at most one half of their last place.
* `Discerns`: numbers in which nothing less than all counted units is a percentage of them.
* `discerns_float`, `discerns_rat`: doubles tell up to a bound, rational numbers always.
-/

namespace AgentTrial.Count

open Float.Model Float.Model.UnpackedFloat

/-! ## Shifting and rounding -/

theorem mantissa_shiftRight (em : ExtendedMantissa) (k : Nat) : (em >>> k).mantissa = em.mantissa / 2 ^ k := by
  induction k with
  | zero => exact (Nat.div_one _).symm
  | succ k ih =>
    show (em >>> k).mantissa / 2 = _
    rw [ih, Nat.div_div_eq_div_mul, Nat.pow_succ]

/-- Nothing is lost by shifting zeros out. -/
theorem shiftRight_mul (m k : Nat) : (⟨m * 2 ^ k, false, false⟩ : ExtendedMantissa) >>> k = ⟨m, false, false⟩ := by
  induction k generalizing m with
  | zero => simp [HShiftRight.hShiftRight, Nat.repeat]
  | succ k ih =>
    have hk : (⟨m * 2 ^ (k + 1), false, false⟩ : ExtendedMantissa) >>> k = ⟨m * 2, false, false⟩ := by
      rw [Nat.pow_succ', ← Nat.mul_assoc]
      exact ih (m * 2)
    show ExtendedMantissa.shiftRightOne ((⟨m * 2 ^ (k + 1), false, false⟩ : ExtendedMantissa) >>> k) = _
    rw [hk, ExtendedMantissa.shiftRightOne]
    simp

/-- What is left of a mantissa after some shifts: the residual bits compare what has been shifted out with one half of
the last place. -/
structure Residue (m k : Nat) (em : ExtendedMantissa) (rest : Nat) : Prop where
  small : rest < 2 ^ k
  whole : m = em.mantissa * 2 ^ k + rest
  round : em.roundBit = true ↔ 2 ^ k ≤ 2 * rest
  sticky : em.stickyBit = true ↔ rest ≠ 0 ∧ 2 * rest ≠ 2 ^ k

theorem Residue.shift {m k rest : Nat} {em : ExtendedMantissa} (h : Residue m k em rest) :
    Residue m (k + 1) em.shiftRightOne (em.mantissa % 2 * 2 ^ k + rest) := by
  obtain ⟨hsmall, hwhole, hround, hsticky⟩ := h
  have hpow : 2 ^ (k + 1) = 2 * 2 ^ k := Nat.pow_succ'
  have hparity := Nat.mod_two_eq_zero_or_one em.mantissa
  have hbit : em.mantissa = em.mantissa / 2 * 2 + em.mantissa % 2 := (Nat.div_add_mod' _ _).symm
  refine ⟨?_, ?_, ?_, ?_⟩
  · rcases hparity with h | h <;> rw [h, hpow] <;> omega
  · calc m = (em.mantissa / 2 * 2 + em.mantissa % 2) * 2 ^ k + rest := by rw [← hbit, ← hwhole]
      _ = em.mantissa / 2 * 2 ^ (k + 1) + (em.mantissa % 2 * 2 ^ k + rest) := by rw [hpow]; ring
  · simp only [ExtendedMantissa.shiftRightOne, bne_iff_ne, ne_eq]
    rcases hparity with h | h <;> rw [h, hpow] <;> omega
  · simp only [ExtendedMantissa.shiftRightOne, Bool.or_eq_true, hround, hsticky]
    rcases hparity with h | h <;> rw [h, hpow] <;> omega

theorem exists_residue (m k : Nat) : ∃ rest, Residue m k ((⟨m, false, false⟩ : ExtendedMantissa) >>> k) rest := by
  induction k with
  | zero => exact ⟨0, by decide, (Nat.mul_one m).symm, by simp [HShiftRight.hShiftRight, Nat.repeat],
      by simp [HShiftRight.hShiftRight, Nat.repeat]⟩
  | succ k ih =>
    obtain ⟨rest, h⟩ := ih
    exact ⟨_, h.shift⟩

/-- Rounding goes to a nearest neighbour. -/
theorem roundedMantissa_nearest (m k : Nat) :
    2 * (((⟨m, false, false⟩ : ExtendedMantissa) >>> k).roundedMantissa * 2 ^ k) ≤ 2 * m + 2 ^ k ∧
      2 * m ≤ 2 * (((⟨m, false, false⟩ : ExtendedMantissa) >>> k).roundedMantissa * 2 ^ k) + 2 ^ k := by
  obtain ⟨rest, hrest, hm, hround, hsticky⟩ := exists_residue m k
  generalize (⟨m, false, false⟩ : ExtendedMantissa) >>> k = em at hm hround hsticky ⊢
  obtain ⟨q, r, s⟩ := em
  have hup : (q + 1) * 2 ^ k = q * 2 ^ k + 2 ^ k := by ring
  dsimp only at hm hround hsticky
  cases r <;> cases s <;>
    simp only [ExtendedMantissa.roundedMantissa, ExtendedMantissa.accuracy, Accuracy.roundToNearestEven,
      Bool.false_eq_true, false_iff, true_iff] at hround hsticky ⊢
  · omega
  · omega
  · rcases Nat.mod_two_eq_zero_or_one q with h | h <;> rw [h]
    · rw [Nat.add_zero]
      omega
    · omega
  · omega

/-- A mantissa of 53 bits is not rounded out of them, except to the next power of two. -/
theorem roundedMantissa_bounds (em : ExtendedMantissa) :
    em.mantissa ≤ em.roundedMantissa ∧ em.roundedMantissa ≤ em.mantissa + 1 := by
  obtain ⟨m, r, s⟩ := em
  cases r <;> cases s <;>
    simp [ExtendedMantissa.roundedMantissa, ExtendedMantissa.accuracy, Accuracy.roundToNearestEven]
  omega

/-- A mantissa is shifted until 53 bits of it are left. -/
theorem shiftToTargetExponent_eq {m k : Nat} {e : Int} (hm : m.log2 = 52 + k) (he : -1000 ≤ e) :
    shiftToTargetExponent Format.binary64 m e .exact = ((⟨m, false, false⟩ : ExtendedMantissa) >>> k, e + k) := by
  have htarget : Format.binary64.targetExponent (totalExponent m e) = e + k := by
    simp only [Format.targetExponent, totalExponent, Format.mantissaBits, Format.minExponent, hm]
    norm_num
    omega
  have hk : (e + k - e).toNat = k := by omega
  rw [shiftToTargetExponent, htarget, shiftToExponent, hk]
  rfl

theorem shiftToTargetExponent_normal {m : Nat} {e : Int} (low : 2 ^ 52 ≤ m) (high : m < 2 ^ 53) (he : -1000 ≤ e) :
    shiftToTargetExponent Format.binary64 m e .exact = (⟨m, false, false⟩, e) := by
  have hlog : m.log2 = 52 + 0 := (Nat.log2_eq_iff (by omega)).2 ⟨low, high⟩
  rw [shiftToTargetExponent_eq hlog he]
  simp [HShiftRight.hShiftRight, Nat.repeat]

/-- A mantissa that rounding made too long by one bit is shifted again. -/
theorem roundWithAccuracy_eq {m k : Nat} {e : Int} (hm : m.log2 = 52 + k) (he : -1000 ≤ e) {r : Nat}
    (hr : ((⟨m, false, false⟩ : ExtendedMantissa) >>> k).roundedMantissa = r) (low : 2 ^ 52 ≤ r) (high : r ≤ 2 ^ 53) :
    roundWithAccuracy Format.binary64 .positive m e .exact =
      if r < 2 ^ 53 then .finite .positive r (e + k) (by omega)
      else .finite .positive (2 ^ 52) (e + k + 1) (by decide) := by
  have he' : -1000 ≤ e + k := by omega
  rw [roundWithAccuracy, shiftToTargetExponent_eq hm he]
  dsimp only
  simp only [hr]
  by_cases hlt : r < 2 ^ 53
  · simp only [shiftToTargetExponent_normal low hlt he']
    rw [dif_neg (by omega), if_pos hlt]
  · obtain rfl : r = 2 ^ 53 := by omega
    have hlog : (2 ^ 53 : Nat).log2 = 52 + 1 := Nat.log2_two_pow
    simp only [shiftToTargetExponent_eq hlog he', mantissa_shiftRight]
    rfl

/-! ## Packing -/

theorem finite_congr {s : Sign} {m m' : Nat} {e e' : Int} (hm : m = m') (he : e = e') (pos : 0 < m) (pos' : 0 < m') :
    UnpackedFloat.finite s m e pos = .finite s m' e' pos' := by
  subst hm he
  rfl

/-- What is in normal form, and not too large, is kept by packing. -/
theorem unpack_pack {m E : Nat} (pos : 0 < m) (low : 2 ^ 52 ≤ m) (high : m < 2 ^ 53) (small : E < 1000) :
    (Float.Model.pack (.finite .positive m (E - 52) pos)).unpack = .finite .positive m (E - 52) pos := by
  have hlog : m.log2 = 52 := (Nat.log2_eq_iff (by omega)).2 ⟨low, high⟩
  have hbiased : ((E : Int) - 52 + 1023 + 52).toNat = E + 1023 := by omega
  have hpack : UnpackedFloat.pack Format.binary64 (.finite .positive m (E - 52) pos) =
      packComponents Format.binary64 .positive (BitVec.ofNat 11 (E + 1023)) (BitVec.ofNat 52 m) := by
    show (if 2 ^ 11 ≤ ((E : Int) - 52 + 1023 + 52).toNat + 1 then _ else
      if m.log2 + 1 = 53 then packComponents Format.binary64 .positive
        (BitVec.ofNat 11 ((E : Int) - 52 + 1023 + 52).toNat) (BitVec.ofNat 52 m) else _) = _
    rw [hbiased, if_neg (by omega), if_pos (by omega)]
  have hexp : (BitVec.ofNat 11 (E + 1023)).toNat = E + 1023 := by
    rw [BitVec.toNat_ofNat, Nat.mod_eq_of_lt (by omega)]
  -- the exponent is neither that of infinity nor that of zero
  have hfull : BitVec.ofNat 11 (E + 1023) ≠ -1#11 := by
    intro h
    have hnat := congrArg BitVec.toNat h
    rw [hexp] at hnat
    simp at hnat
    omega
  have hzero : BitVec.ofNat 11 (E + 1023) ≠ 0#11 := by
    intro h
    have hnat := congrArg BitVec.toNat h
    rw [hexp] at hnat
    simp at hnat
  have hmant : (1#1 ++ BitVec.ofNat 52 m).toNat = m := by
    have hlt : m % 2 ^ 52 < 2 ^ 52 := Nat.mod_lt _ (by decide)
    rw [BitVec.toNat_append, BitVec.toNat_ofNat m, ← Nat.shiftLeft_add_eq_or_of_lt hlt]
    show 2 ^ 52 + m % 2 ^ 52 = m
    omega
  show UnpackedFloat.unpack Format.binary64 (UnpackedFloat.pack Format.binary64 _) = _
  rw [hpack, UnpackedFloat.unpack]
  simp only [unpackExponent_packComponents, unpackMantissa_packComponents, unpackSign_packComponents,
    Sign.ofBitVec_toBitVec]
  rw [if_neg hfull, if_neg hzero]
  refine finite_congr hmant ?_ _ _
  rw [hexp]
  show ((E + 1023 : Nat) : Int) - ((1023 : Nat) + (52 : Nat)) = _
  omega

/-! ## Counts and their products -/

/-- A double in normal form: its mantissa, and the place of its first bit. -/
structure Normal (x : Float) (m E : Nat) : Prop where
  low : 2 ^ 52 ≤ m
  high : m < 2 ^ 53
  unpack : ∃ pos, x.toModel.unpack = .finite .positive m (E - 52) pos

theorem one_unpack : (Float.ofBits 4607182418800017408).toModel.unpack = .finite .positive (2 ^ 52) (-52) (by decide) :=
  rfl

theorem Normal.mul_one {x : Float} {m E : Nat} (h : Normal x m E) (small : E < 1000) :
    Normal (x * Float.ofBits 4607182418800017408) m E := by
  obtain ⟨pos, hx⟩ := h.unpack
  have low := h.low
  have high := h.high
  refine ⟨low, high, pos, ?_⟩
  have hlog : (m * 2 ^ 52).log2 = 52 + 52 := (Nat.log2_eq_iff (by omega)).2 ⟨by omega, by omega⟩
  have hround : ((⟨m * 2 ^ 52, false, false⟩ : ExtendedMantissa) >>> 52).roundedMantissa = m := by
    rw [shiftRight_mul]
    rfl
  have hmul : UnpackedFloat.mul Format.binary64 x.toModel.unpack (Float.ofBits 4607182418800017408).toModel.unpack =
      .finite .positive m (E - 52) pos := by
    rw [hx, one_unpack]
    show roundWithAccuracy Format.binary64 .positive (m * 2 ^ 52) ((E : Int) - 52 + -52) .exact = _
    rw [roundWithAccuracy_eq hlog (by omega) hround low (by omega), if_pos high]
    exact finite_congr rfl (by omega) _ _
  show (Float.Model.pack (UnpackedFloat.mul Format.binary64 _ _)).unpack = _
  rw [hmul, unpack_pack pos low high small]

theorem normal_toFloat {n : Nat} (pos : 0 < n) (hn : n < 2 ^ 53) :
    Normal n.toUInt64.toFloat (n * 2 ^ (52 - n.log2)) n.log2 := by
  have hlog52 : n.log2 ≤ 52 := Nat.le_of_lt_succ ((Nat.log2_lt (by omega)).2 hn)
  obtain ⟨hlow, hhigh⟩ := (Nat.log2_eq_iff (by omega)).1 (rfl : n.log2 = n.log2)
  have low : 2 ^ 52 ≤ n * 2 ^ (52 - n.log2) := by
    calc 2 ^ 52 = 2 ^ n.log2 * 2 ^ (52 - n.log2) := by rw [← Nat.pow_add, Nat.add_sub_cancel' hlog52]
      _ ≤ n * 2 ^ (52 - n.log2) := Nat.mul_le_mul_right _ hlow
  have high : n * 2 ^ (52 - n.log2) < 2 ^ 53 := by
    calc n * 2 ^ (52 - n.log2) < 2 ^ (n.log2 + 1) * 2 ^ (52 - n.log2) :=
          Nat.mul_lt_mul_of_pos_right hhigh (Nat.two_pow_pos _)
      _ = 2 ^ 53 := by rw [← Nat.pow_add]; congr 1; omega
  have hpos : 0 < n * 2 ^ (52 - n.log2) := by omega
  have hlog : (n * 2 ^ (52 - n.log2)).log2 = 52 + 0 := (Nat.log2_eq_iff (by omega)).2 ⟨low, high⟩
  refine ⟨low, high, hpos, ?_⟩
  have hn64 : n.toUInt64.toNat = n := Nat.mod_eq_of_lt (by omega)
  have htarget : Format.binary64.targetExponent (totalExponent n 0) = n.log2 - 52 := by
    simp only [Format.targetExponent, totalExponent, Format.mantissaBits, Format.minExponent]
    norm_num
    omega
  have hround : UnpackedFloat.ofUInt64 Format.binary64 n.toUInt64 =
      .finite .positive (n * 2 ^ (52 - n.log2)) (n.log2 - 52) hpos := by
    have hgt : compare (n : Int) 0 = .gt := by
      rw [Int.compare_eq_gt]
      omega
    have hshift : (0 - ((n.log2 : Int) - 52)).toNat = 52 - n.log2 := by omega
    have hexact : ((⟨n * 2 ^ (52 - n.log2), false, false⟩ : ExtendedMantissa) >>> 0).roundedMantissa =
        n * 2 ^ (52 - n.log2) := rfl
    rw [UnpackedFloat.ofUInt64, hn64, UnpackedFloat.ofNat, UnpackedFloat.ofInt, UnpackedFloat.normalize, hgt]
    show UnpackedFloat.round Format.binary64 .positive n 0 = _
    rw [UnpackedFloat.round, htarget, decreaseExponent, hshift, Nat.shiftLeft_eq]
    dsimp only
    rw [roundWithAccuracy_eq hlog (by omega) hexact low (by omega), if_pos high]
    exact finite_congr rfl (by omega) _ _
  show (Float.Model.pack (UnpackedFloat.ofUInt64 Format.binary64 n.toUInt64)).unpack = _
  rw [hround, unpack_pack hpos low high (by omega)]

/-- A count below `2 ^ 53` is a double. -/
theorem normal_ofNat {n : Nat} (pos : 0 < n) (hn : n < 2 ^ 53) :
    Normal (Float.ofNat n) (n * 2 ^ (52 - n.log2)) n.log2 := by
  have hcast : Float.ofNat n = n.toUInt64.toFloat * Float.ofBits 4607182418800017408 := by
    show Float.ofScientific n false 0 = _
    rw [Float.ofScientific, dif_pos ⟨hn, by decide⟩]
    rfl
  have hlog : n.log2 < 53 := (Nat.log2_lt (by omega)).2 hn
  rw [hcast]
  exact (normal_toFloat pos hn).mul_one (by omega)

/-- A product of two doubles is a double that is nearest to the exact one. -/
theorem Normal.mul {x y : Float} {a b i j : Nat} (hx : Normal x a i) (hy : Normal y b j) (small : i + j < 900) :
    ∃ m E, Normal (x * y) m E ∧
      2 * (m * 2 ^ E * 2 ^ 52) ≤ 2 * (a * 2 ^ i * (b * 2 ^ j)) + 2 ^ E * 2 ^ 52 ∧
      2 * (a * 2 ^ i * (b * 2 ^ j)) ≤ 2 * (m * 2 ^ E * 2 ^ 52) + 2 ^ E * 2 ^ 52 := by
  obtain ⟨posx, hxu⟩ := hx.unpack
  obtain ⟨posy, hyu⟩ := hy.unpack
  have hlow : 2 ^ 104 ≤ a * b := by
    calc 2 ^ 104 = 2 ^ 52 * 2 ^ 52 := by rw [← Nat.pow_add]
      _ ≤ a * b := Nat.mul_le_mul hx.low hy.low
  have hhigh : a * b < 2 ^ 106 := by
    calc a * b < 2 ^ 53 * 2 ^ 53 := Nat.mul_lt_mul'' hx.high hy.high
      _ = 2 ^ 106 := by rw [← Nat.pow_add]
  -- the product is one bit longer or not
  obtain ⟨k, hk, hk1, hlog⟩ : ∃ k, 52 ≤ k ∧ k ≤ 53 ∧ (a * b).log2 = 52 + k := by
    have hge : 104 ≤ (a * b).log2 := (Nat.le_log2 (by omega)).2 hlow
    have hlt : (a * b).log2 < 106 := (Nat.log2_lt (by omega)).2 hhigh
    exact ⟨(a * b).log2 - 52, by omega, by omega, by omega⟩
  obtain ⟨hpow, hpow'⟩ := (Nat.log2_eq_iff (by omega)).1 hlog
  generalize hr : ((⟨a * b, false, false⟩ : ExtendedMantissa) >>> k).roundedMantissa = r
  obtain ⟨hnear, hnear'⟩ := hr ▸ roundedMantissa_nearest (a * b) k
  obtain ⟨hr1, hr2⟩ := hr ▸ roundedMantissa_bounds ((⟨a * b, false, false⟩ : ExtendedMantissa) >>> k)
  rw [mantissa_shiftRight] at hr1 hr2
  have low : 2 ^ 52 ≤ r := by
    refine Nat.le_trans ?_ hr1
    rw [Nat.le_div_iff_mul_le (Nat.two_pow_pos _), ← Nat.pow_add]
    exact hpow
  have high : r ≤ 2 ^ 53 := by
    refine Nat.le_trans hr2 ?_
    rw [Nat.succ_le_iff, Nat.div_lt_iff_lt_mul (Nat.two_pow_pos _), ← Nat.pow_add]
    exact Nat.lt_of_lt_of_eq hpow' (congrArg _ (by omega))
  have hmul : UnpackedFloat.mul Format.binary64 x.toModel.unpack y.toModel.unpack =
      roundWithAccuracy Format.binary64 .positive (a * b) ((i : Int) - 52 + (j - 52)) .exact := by
    rw [hxu, hyu]
    rfl
  have hxy : (x * y).toModel.unpack =
      (Float.Model.pack (UnpackedFloat.mul Format.binary64 x.toModel.unpack y.toModel.unpack)).unpack := rfl
  rw [hmul, roundWithAccuracy_eq hlog (by omega) hr low high] at hxy
  -- both sides in the unit of the exact product
  have hunit : 2 ^ (i + j + (k - 52)) * 2 ^ 52 = 2 ^ k * (2 ^ i * 2 ^ j) := by
    rw [← Nat.pow_add, ← Nat.pow_add, ← Nat.pow_add]
    congr 1
    omega
  have habove : 2 * (r * (2 ^ (i + j + (k - 52)) * 2 ^ 52)) ≤
      2 * (a * 2 ^ i * (b * 2 ^ j)) + 2 ^ (i + j + (k - 52)) * 2 ^ 52 := by
    rw [hunit]
    calc 2 * (r * (2 ^ k * (2 ^ i * 2 ^ j))) = 2 * (r * 2 ^ k) * (2 ^ i * 2 ^ j) := by ring
      _ ≤ (2 * (a * b) + 2 ^ k) * (2 ^ i * 2 ^ j) := Nat.mul_le_mul_right _ hnear
      _ = 2 * (a * 2 ^ i * (b * 2 ^ j)) + 2 ^ k * (2 ^ i * 2 ^ j) := by ring
  have hbelow : 2 * (a * 2 ^ i * (b * 2 ^ j)) ≤
      2 * (r * (2 ^ (i + j + (k - 52)) * 2 ^ 52)) + 2 ^ (i + j + (k - 52)) * 2 ^ 52 := by
    rw [hunit]
    calc 2 * (a * 2 ^ i * (b * 2 ^ j)) = 2 * (a * b) * (2 ^ i * 2 ^ j) := by ring
      _ ≤ (2 * (r * 2 ^ k) + 2 ^ k) * (2 ^ i * 2 ^ j) := Nat.mul_le_mul_right _ hnear'
      _ = 2 * (r * (2 ^ k * (2 ^ i * 2 ^ j))) + 2 ^ k * (2 ^ i * 2 ^ j) := by ring
  by_cases hlt : r < 2 ^ 53
  · rw [if_pos hlt, finite_congr rfl (show _ = ((i + j + (k - 52) : Nat) : Int) - 52 by omega) _ (by omega),
      unpack_pack _ low hlt (by omega)] at hxy
    refine ⟨r, i + j + (k - 52), ⟨low, hlt, _, hxy⟩, ?_, ?_⟩
    · rwa [Nat.mul_assoc r]
    · rwa [Nat.mul_assoc r]
  · rw [if_neg hlt, finite_congr rfl (show _ = ((i + j + (k - 52) + 1 : Nat) : Int) - 52 by omega) _ (by decide),
      unpack_pack _ (Nat.le_refl _) (by decide) (by omega)] at hxy
    have hr53 : r = 2 ^ 53 := by omega
    have hcarry : 2 ^ 52 * 2 ^ (i + j + (k - 52) + 1) * 2 ^ 52 = r * (2 ^ (i + j + (k - 52)) * 2 ^ 52) := by
      rw [hr53]
      ring
    have hwide : 2 ^ (i + j + (k - 52)) * 2 ^ 52 ≤ 2 ^ (i + j + (k - 52) + 1) * 2 ^ 52 :=
      Nat.mul_le_mul_right _ (Nat.pow_le_pow_right (by decide) (Nat.le_succ _))
    refine ⟨2 ^ 52, i + j + (k - 52) + 1, ⟨Nat.le_refl _, by decide, _, hxy⟩, ?_, ?_⟩
    · rw [hcarry]
      exact Nat.le_trans habove (Nat.add_le_add_left hwide _)
    · rw [hcarry]
      exact Nat.le_trans hbelow (Nat.add_le_add_left hwide _)

/-- A product of counts is within half of its last place. -/
theorem normal_mul_ofNat {a b : Nat} (ha : 0 < a) (ha53 : a < 2 ^ 53) (hb : 0 < b) (hb53 : b < 2 ^ 53) :
    ∃ m E, Normal (Float.ofNat a * Float.ofNat b) m E ∧ 2 * (m * 2 ^ E) ≤ 2 * (a * b * 2 ^ 52) + 2 ^ E ∧
      2 * (a * b * 2 ^ 52) ≤ 2 * (m * 2 ^ E) + 2 ^ E := by
  have hexact : ∀ {n : Nat}, 0 < n → n < 2 ^ 53 → n * 2 ^ (52 - n.log2) * 2 ^ n.log2 = n * 2 ^ 52 := by
    intro n hn hn53
    have hlog : n.log2 < 53 := (Nat.log2_lt (by omega)).2 hn53
    rw [Nat.mul_assoc, ← Nat.pow_add]
    congr 2
    omega
  have hloga : a.log2 < 53 := (Nat.log2_lt (by omega)).2 ha53
  have hlogb : b.log2 < 53 := (Nat.log2_lt (by omega)).2 hb53
  obtain ⟨m, E, hnormal, habove, hbelow⟩ := (normal_ofNat ha ha53).mul (normal_ofNat hb hb53) (by omega)
  have hunit : a * 2 ^ 52 * (b * 2 ^ 52) = a * b * 2 ^ 52 * 2 ^ 52 := by ring
  rw [hexact ha ha53, hexact hb hb53, hunit] at habove hbelow
  refine ⟨m, E, hnormal, ?_⟩
  have hscale : 0 < 2 ^ 52 := by decide
  generalize 2 ^ 52 = unit at habove hbelow hscale ⊢
  refine ⟨Nat.le_of_mul_le_mul_right ?_ hscale, Nat.le_of_mul_le_mul_right ?_ hscale⟩
  · linarith
  · linarith

theorem unpack_le_of_atMost {x y : Float} (h : Score.atMost x y = true) :
    x.toModel.unpack.le y.toModel.unpack = true := by
  have hle : x ≤ y := of_decide_eq_true h
  exact of_decide_eq_true hle

/-- The order of doubles is that of their places, and then that of their mantissas. -/
theorem Normal.le_of_atMost {x y : Float} {m m' E E' : Nat} (hx : Normal x m E) (hy : Normal y m' E')
    (h : Score.atMost x y = true) : m * 2 ^ E ≤ m' * 2 ^ E' := by
  obtain ⟨pos, hxu⟩ := hx.unpack
  obtain ⟨pos', hyu⟩ := hy.unpack
  have hle := unpack_le_of_atMost h
  rw [hxu, hyu] at hle
  have hthen : ((compare ((E : Int) - 52) (E' - 52)).then (compare m m')).isLE = true := hle
  rw [Ordering.isLE_then_iff_or] at hthen
  have := hx.low
  have := hx.high
  have := hy.low
  obtain hlt | ⟨heq, hm⟩ := hthen
  · have hE : E + 1 ≤ E' := by
      have := Int.compare_eq_lt.1 hlt
      omega
    calc m * 2 ^ E ≤ 2 ^ 52 * 2 * 2 ^ E := Nat.mul_le_mul_right _ (by omega)
      _ = 2 ^ 52 * 2 ^ (E + 1) := by ring
      _ ≤ m' * 2 ^ E' := Nat.mul_le_mul hy.low (Nat.pow_le_pow_right (by decide) hE)
  · have hE : E = E' := by
      have := Int.compare_eq_eq.1 heq
      omega
    rw [hE]
    exact Nat.mul_le_mul_right _ (Nat.isLE_compare.1 hm)

/-- Nothing less than all counted units is this percentage of them, for up to as many of them; and 0 is less than it. -/
structure Discerns {α : Type} [Score α] (percent : α) (most : Nat) : Prop where
  nothing : Score.atMost percent (Score.ofCount 0) = false
  apart : ∀ passed counted, passed ≤ counted → counted ≤ most →
    Score.atMost (Score.times percent (Score.ofCount counted))
      (Score.times (Score.ofCount passed) (Score.ofCount 100)) = true → passed = counted

/-- Doubles tell as long as hundred times the count is below `2 ^ 59`. -/
theorem discerns_float {most : Nat} (bound : most * 100 < 2 ^ 59) : Discerns (100 : Float) most := by
  refine ⟨by decide +kernel, fun passed counted hle hmost h => ?_⟩
  by_contra hne
  obtain ⟨m, E, hnormal, habove, hbelow⟩ :=
    normal_mul_ofNat (a := 100) (b := counted) (by decide) (by decide) (by omega) (by omega)
  by_cases hzero : passed = 0
  · obtain ⟨pos, hunpack⟩ := hnormal.unpack
    have hnone : (Float.ofNat 0 * Float.ofNat 100).toModel.unpack = .zero .positive := rfl
    have hle : (Float.ofNat 100 * Float.ofNat counted).toModel.unpack.le
        (Float.ofNat passed * Float.ofNat 100).toModel.unpack = true := unpack_le_of_atMost h
    rw [hzero, hnone, hunpack] at hle
    exact Bool.false_ne_true hle
  · obtain ⟨m', E', hnormal', habove', -⟩ :=
      normal_mul_ofNat (a := passed) (b := 100) (by omega) (by omega) (by decide) (by decide)
    have hle := hnormal.le_of_atMost hnormal' h
    have hlow : 2 ^ 52 * 2 ^ E ≤ m * 2 ^ E := Nat.mul_le_mul_right _ hnormal.low
    have hlow' : 2 ^ 52 * 2 ^ E' ≤ m' * 2 ^ E' := Nat.mul_le_mul_right _ hnormal'.low
    -- the last place of the lesser product is at 64 or below, and that of the other one at 128 or below
    have hE : E ≤ 59 := by
      by_contra hgt
      have hge : 2 ^ 60 ≤ 2 ^ E := Nat.pow_le_pow_right (by decide) (by omega)
      omega
    have hE' : E' ≤ 58 := by
      by_contra hgt
      have hge : 2 ^ 59 ≤ 2 ^ E' := Nat.pow_le_pow_right (by decide) (by omega)
      omega
    have hplace : 2 ^ E ≤ 2 ^ 59 := Nat.pow_le_pow_right (by decide) hE
    have hplace' : 2 ^ E' ≤ 2 ^ 58 := Nat.pow_le_pow_right (by decide) hE'
    omega

/-- The bound is that of doubles: three counts beyond it they take two for one. -/
example : Score.atMost (Score.times (100 : Float) (Score.ofCount 5764607523034238))
    (Score.times (Score.ofCount 5764607523034237) (Score.ofCount 100)) = true := by decide +kernel

/-- Rational numbers tell all counts apart. -/
theorem discerns_rat (most : Nat) : Discerns (100 : Rat) most := by
  refine ⟨by decide +kernel, fun passed counted hle _ h => ?_⟩
  have hexact : (100 : Rat) * counted ≤ passed * ((100 : Nat) : Rat) := of_decide_eq_true h
  have hcast : 100 * counted ≤ passed * 100 := by exact_mod_cast hexact
  omega

end AgentTrial.Count
