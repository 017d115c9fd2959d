import AgentTrial.Decimal.Form
import Mathlib.Algebra.Group.Nat.Defs
import Mathlib.Tactic.SplitIfs

/-!
# Form — the characters of a written number

* `forall_mem_layout`: what holds of the digits and the few marks of a form holds of every character it lays out.
* `forall_mem_program`: the same of a number in a program, which may also be written as a word.
* `length_renderTenths_le`: a number with one decimal place has a bounded number of characters.
-/

namespace AgentTrial.Decimal

variable {P : Char → Prop} {f : Form}

theorem forall_mem_digitsOf (digit : ∀ c, c.isDigit = true → P c) (n : Nat) : ∀ c ∈ Form.digitsOf n, P c :=
  fun c hc => digit c (Nat.isDigit_of_mem_toDigits (by decide) (by decide) hc)

theorem forall_mem_layoutPositional (digit : ∀ c, c.isDigit = true → P c) (dot : P '.') {ds : List Char}
    (hds : ∀ c ∈ ds, P c) (point : Int) : ∀ c ∈ f.layoutPositional ds point, P c := by
  have zero : P '0' := digit _ rfl
  have zeros (n : Nat) : ∀ c ∈ List.replicate n '0', P c := by
    intro c hc
    rwa [List.eq_of_mem_replicate hc]
  have fraction : ∀ c ∈ ['.', '0'], P c := List.forall_mem_cons.2 ⟨dot, List.forall_mem_singleton.2 zero⟩
  unfold Form.layoutPositional
  split_ifs with hsmall hwhole hkeep
  · exact List.forall_mem_cons.2 ⟨zero, List.forall_mem_cons.2 ⟨dot, List.forall_mem_append.2 ⟨zeros _, hds⟩⟩⟩
  · exact List.forall_mem_append.2 ⟨List.forall_mem_append.2 ⟨hds, zeros _⟩, fraction⟩
  · exact List.forall_mem_append.2 ⟨List.forall_mem_append.2 ⟨hds, zeros _⟩, nofun⟩
  · refine List.forall_mem_append.2 ⟨fun c hc => hds c (List.mem_of_mem_take hc), ?_⟩
    exact List.forall_mem_cons.2 ⟨dot, fun c hc => hds c (List.mem_of_mem_drop hc)⟩

theorem forall_mem_layoutScientific (digit : ∀ c, c.isDigit = true → P c) (dot : P '.') (exponent : P 'e')
    (minus : P '-') (sign : ∀ c ∈ f.exponentSign, P c) {ds : List Char} (hds : ∀ c ∈ ds, P c) (point : Int) :
    ∀ c ∈ f.layoutScientific ds point, P c := by
  have fraction : ∀ c ∈ (if ds.length ≤ 1 then [] else '.' :: ds.drop 1), P c := by
    split_ifs
    · exact nofun
    · exact List.forall_mem_cons.2 ⟨dot, fun c hc => hds c (List.mem_of_mem_drop hc)⟩
  have mark : ∀ c ∈ (if point - 1 < 0 then ['-'] else f.exponentSign), P c := by
    split_ifs
    · exact List.forall_mem_singleton.2 minus
    · exact sign
  unfold Form.layoutScientific
  refine List.forall_mem_append.2 ⟨List.forall_mem_append.2 ⟨fun c hc => hds c (List.mem_of_mem_take hc), fraction⟩, ?_⟩
  exact List.forall_mem_cons.2 ⟨exponent, List.forall_mem_append.2 ⟨mark, forall_mem_digitsOf digit _⟩⟩

/-- The characters of an unsigned number are digits, the point and the marks of an exponent. -/
theorem forall_mem_layout (digit : ∀ c, c.isDigit = true → P c) (dot : P '.') (exponent : P 'e') (minus : P '-')
    (sign : ∀ c ∈ f.exponentSign, P c) (d : Digits) : ∀ c ∈ f.layout d, P c := by
  have zero : P '0' := digit _ rfl
  have hds := forall_mem_digitsOf digit d.digits
  unfold Form.layout
  split_ifs
  · exact List.forall_mem_cons.2 ⟨zero, List.forall_mem_cons.2 ⟨dot, List.forall_mem_singleton.2 zero⟩⟩
  · exact List.forall_mem_singleton.2 zero
  · dsimp only
    split
    · exact forall_mem_layoutPositional digit dot hds _
    · split_ifs
      · exact forall_mem_layoutPositional digit dot hds _
      · exact forall_mem_layoutScientific digit dot exponent minus sign hds _

/-- The characters of a number in a program are those of its layout and of the words for values without digits. -/
theorem forall_mem_program (digit : ∀ c, c.isDigit = true → P c) (dot : P '.') (exponent : P 'e') (minus : P '-')
    (nan : P 'N' ∧ P 'a') (inf : P 'i' ∧ P 'n' ∧ P 'f') (x : Float) : ∀ c ∈ (program.render x).toList, P c := by
  have hnan : ∀ c ∈ "NaN".toList, P c :=
    List.forall_mem_cons.2 ⟨nan.1, List.forall_mem_cons.2 ⟨nan.2, List.forall_mem_singleton.2 nan.1⟩⟩
  have hinf : ∀ c ∈ "inf".toList, P c :=
    List.forall_mem_cons.2 ⟨inf.1, List.forall_mem_cons.2 ⟨inf.2.1, List.forall_mem_singleton.2 inf.2.2⟩⟩
  have signed (negative : Bool) : ∀ c ∈ (if negative then "-" else "").toList, P c := by
    cases negative with
    | false => exact List.forall_mem_nil _
    | true => exact List.forall_mem_singleton.2 minus
  unfold Form.render
  cases Binary.ofFloat x with
  | nan => exact hnan
  | infinity negative =>
    rw [String.toList_append]
    exact List.forall_mem_append.2 ⟨signed negative, hinf⟩
  | finite negative m q =>
    rw [String.toList_append, String.toList_ofList]
    exact List.forall_mem_append.2 ⟨signed negative, forall_mem_layout digit dot exponent minus (List.forall_mem_nil _) _⟩

/-! ## The length of a number -/

theorem length_toString_le {n k : Nat} (pos : 0 < k) (h : n < 2 ^ k) : (toString n).length ≤ k := by
  rw [Nat.toString_eq_ofList_toDigits, String.length_ofList, Nat.length_toDigits_le_iff (by decide) pos]
  exact Nat.lt_of_lt_of_le h (Nat.pow_le_pow_left (by decide) k)

theorem roundDiv_le (num den : Nat) : roundDiv num den ≤ num + 1 := by
  have hquotient : num / den ≤ num := Nat.div_le_self num den
  unfold roundDiv
  dsimp only
  split_ifs <;> omega

/-- The mantissa of a double has at most 53 bits, and its exponent is at most 971. -/
theorem bounds_of_ofFloat {x : Float} {negative : Bool} {m : Nat} {q : Int}
    (h : Binary.ofFloat x = .finite negative m q) : m < 2 ^ 53 ∧ q ≤ 971 := by
  unfold Binary.ofFloat Binary.ofBits at h
  dsimp only at h
  have hfraction : x.toBits.toNat % Nat.pow 2 52 < 2 ^ 52 := Nat.mod_lt _ (by decide)
  have hbiased : x.toBits.toNat / Nat.pow 2 52 % Nat.pow 2 11 < 2 ^ 11 := Nat.mod_lt _ (by decide)
  generalize x.toBits.toNat % Nat.pow 2 52 = fraction at h hfraction
  generalize x.toBits.toNat / Nat.pow 2 52 % Nat.pow 2 11 = biased at h hbiased
  have hlead : Nat.pow 2 52 = 2 ^ 52 := rfl
  split_ifs at h with hspecial hzero hsmall
  · injection h with _ hm hq
    omega
  · injection h with _ hm hq
    rw [beq_iff_eq] at hspecial
    omega

/-- The whole part of a double is written with at most as many digits as it has bits. -/
theorem length_renderTenths_le (x : Float) : (renderTenths x).length ≤ 1035 := by
  unfold renderTenths
  cases h : Binary.ofFloat x with
  | nan => decide
  | infinity negative => cases negative <;> decide
  | finite negative m q =>
    obtain ⟨hm, hq⟩ := bounds_of_ofFloat h
    have hnum : m * 10 * Nat.pow 2 q.toNat < 2 ^ 57 * 2 ^ q.toNat :=
      Nat.mul_lt_mul_of_pos_right (by omega) (Nat.two_pow_pos _)
    have htenths := roundDiv_le (m * 10 * Nat.pow 2 q.toNat) (Nat.pow 2 (-q).toNat)
    dsimp only
    generalize roundDiv (m * 10 * Nat.pow 2 q.toNat) (Nat.pow 2 (-q).toNat) = tenths at htenths ⊢
    rw [← Nat.pow_add] at hnum
    have hbits : (2 : Nat) ^ (57 + q.toNat) < 2 ^ (58 + q.toNat) := Nat.pow_lt_pow_right (by decide) (by omega)
    have hwhole : (toString (tenths / 10)).length ≤ 58 + q.toNat := length_toString_le (by omega) (by omega)
    have hfraction : (toString (tenths % 10)).length ≤ 4 := length_toString_le (by decide) (by omega)
    have hsign : (if negative then "-" else "").length ≤ 1 := by cases negative <;> decide
    have hpoint : ".".length = 1 := rfl
    simp only [String.length_append, hpoint]
    omega

end AgentTrial.Decimal
