import AgentTrial.Json.Printer
import AgentTrial.Proofs.Json.Grammar

/-!
# Printer — what is printed of a value tree can be read

The printed texts of a tree are texts of the grammar, so they are decoded as the tree is.  Texts and integers are always
printed so that they are read back.  A double is printed with the digits that are nearest to it, but reading multiplies
rounded powers of ten, so of doubles it has to be asked.

* `written_int`: an integer of sixty-four bits is read back.
* `written_prettyChars`, `written_compactChars`: the texts of a tree are those of the grammar, if its numbers are.
* `ofText_pretty`, `ofText_compact`: and are decoded as the tree.
-/

namespace AgentTrial.Json

/-! ## Texts -/

theorem eq_ofNat_of_toNat {c : Char} {n : Nat} (h : c.toNat = n) : c = Char.ofNat n := by
  rw [← h, Char.ofNat_toNat]

theorem spelled_escapeChar (c : Char) : Spelled c (escapeChar c) := by
  unfold escapeChar
  split_ifs with hquote hslash hfeed hreturn htab hback hform hcontrol
  · exact .short (by rw [hquote]; decide)
  · exact .short (by rw [hslash]; decide)
  · exact .short (by rw [hfeed]; decide)
  · exact .short (by rw [hreturn]; decide)
  · exact .short (by rw [htab]; decide)
  · exact .short (by rw [eq_ofNat_of_toNat (beq_iff_eq.1 hback)]; decide)
  · exact .short (by rw [eq_ofNat_of_toNat (beq_iff_eq.1 hform)]; decide)
  · exact spelled_unicodeEscape (by omega)
  · exact .plain hquote hslash (by omega)

theorem spelled_quoted (s : String) : SpelledText s.toList (s.toList.flatMap escapeChar) :=
  .flatMap spelled_escapeChar s.toList

theorem written_quoted (s : String) : Written (.text s) (quoted s) := .text (spelled_quoted s)

/-! ## Numbers -/

/-- No number but zero starts with a zero. -/
theorem head_toDigits {n : Nat} {ds : List Char} (h : Nat.toDigits 10 n = '0' :: ds) : ds = [] := by
  induction n using Nat.strong_induction_on generalizing ds with
  | _ n ih =>
    rw [Nat.toDigits_eq_if (by decide)] at h
    split_ifs at h with hn
    · exact (List.cons.inj h).2.symm
    · cases hhigh : Nat.toDigits 10 (n / 10) with
      | nil => exact absurd hhigh Nat.toDigits_ne_nil
      | cons c cs =>
        rw [hhigh] at h
        obtain ⟨rfl, -⟩ := List.cons.inj h
        obtain rfl := ih (n / 10) (by omega) hhigh
        have hvalue := congrArg (fun ds => Nat.ofDigitChars 10 ds 0) hhigh
        simp only [Nat.ofDigitChars_ten_toDigits] at hvalue
        have hzero : Nat.ofDigitChars 10 ['0'] 0 = 0 := rfl
        omega

theorem scanNumber_toDigits (negative : Bool) (n : Nat) : scanNumber negative (Nat.toDigits 10 n) =
    .ok (numberDatum ⟨negative, Nat.toDigits 10 n, [], 0⟩ true, []) := by
  have digits : ∀ c ∈ Nat.toDigits 10 n, c.isDigit = true := fun c hc =>
    Nat.isDigit_of_mem_toDigits (by decide) (by decide) hc
  have htake : (Nat.toDigits 10 n).takeWhile Char.isDigit = Nat.toDigits 10 n := List.takeWhile_eq_self_iff.2 digits
  have hdrop : (Nat.toDigits 10 n).dropWhile Char.isDigit = [] := List.dropWhile_eq_nil_iff.2 digits
  rw [scanNumber, Decimal.spanDigits]
  dsimp only
  rw [htake, hdrop]
  cases hdigits : Nat.toDigits 10 n with
  | nil => exact absurd hdigits Nat.toDigits_ne_nil
  | cons d ds =>
    have hzero : ¬ (d = '0' ∧ ds ≠ []) := by
      rintro ⟨rfl, hds⟩
      exact hds (head_toDigits hdigits)
    simp [hzero]

/-- The least integer of sixty-four bits. -/
def minInt64 : Int := -(Nat.pow 2 63 : Nat)

/-- An integer of sixty-four bits, with or without a sign, is read back. -/
theorem written_int {i : Int} (low : minInt64 ≤ i) (high : i ≤ maxNat64) : Written (int i) (integer i) := by
  have low' : -(2 ^ 63 : Nat) ≤ i := low
  have high' : i ≤ (2 ^ 64 - 1 : Nat) := high
  obtain ⟨n, hn⟩ : ∃ n, i.natAbs = n := ⟨_, rfl⟩
  have hvalue : Decimal.ofDigitChars (Nat.toDigits 10 n) = n := Nat.ofDigitChars_ten_toDigits
  have hscan : numberDatum ⟨decide (i < 0), Nat.toDigits 10 n, [], 0⟩ true = .int i := by
    rw [numberDatum, hvalue]
    by_cases hneg : i < 0
    · have hrange : 0 < n ∧ n ≤ Nat.pow 2 63 := ⟨by omega, show n ≤ 2 ^ 63 by omega⟩
      have hsame : -(n : Int) = i := by omega
      simp [hneg, hrange, hsame]
    · have hrange : n ≤ maxNat64 := show n ≤ 2 ^ 64 - 1 by omega
      have hsame : (n : Int) = i := by omega
      simp [hneg, hrange, hsame]
  have hsign : integer i = sign (decide (i < 0)) ++ Nat.toDigits 10 n := by
    simp [integer, sign, hn]
  rw [hsign]
  exact .int (hscan ▸ scanNumber_toDigits _ _)

/-- A natural number of sixty-four bits is read back. -/
theorem written_nat {n : Nat} (h : n ≤ maxNat64) : Written (nat n) (integer n) := by
  have low : minInt64 ≤ 0 := by decide
  exact written_int (Int.le_trans low (Int.natCast_nonneg n)) (Int.ofNat_le.2 h)

mutual

/-- The numbers of a value tree are printed as texts of themselves. -/
def NumbersKept : Json → Prop
  | int i => Written (int i) (integer i)
  | float x => Written (float x) (number x)
  | list vs => NumbersKeptItems vs
  | record vs => NumbersKeptFields vs
  | _ => True

/-- The same of all items. -/
def NumbersKeptItems : List Json → Prop
  | [] => True
  | v :: vs => v.NumbersKept ∧ NumbersKeptItems vs

/-- The same of all values. -/
def NumbersKeptFields : List (String × Json) → Prop
  | [] => True
  | (_, v) :: vs => v.NumbersKept ∧ NumbersKeptFields vs

end

mutual

/-- There are no doubles in a value tree, and its integers have sixty-four bits, with or without a sign. -/
def Whole : Json → Prop
  | int i => minInt64 ≤ i ∧ i ≤ maxNat64
  | float _ => False
  | list vs => WholeItems vs
  | record vs => WholeFields vs
  | _ => True

/-- The same of all items. -/
def WholeItems : List Json → Prop
  | [] => True
  | v :: vs => v.Whole ∧ WholeItems vs

/-- The same of all values. -/
def WholeFields : List (String × Json) → Prop
  | [] => True
  | (_, v) :: vs => v.Whole ∧ WholeFields vs

end

mutual

theorem Whole.numbersKept : ∀ {v : Json}, v.Whole → v.NumbersKept
  | null, _ | bool _, _ | text _, _ => trivial
  | int _, h => written_int h.1 h.2
  | list vs, h => (show WholeItems vs from h).numbersKept
  | record vs, h => (show WholeFields vs from h).numbersKept

theorem WholeItems.numbersKept : ∀ {vs : List Json}, WholeItems vs → NumbersKeptItems vs
  | [], _ => trivial
  | _ :: _, h => ⟨h.1.numbersKept, h.2.numbersKept⟩

theorem WholeFields.numbersKept : ∀ {vs : List (String × Json)}, WholeFields vs → NumbersKeptFields vs
  | [], _ => trivial
  | _ :: _, h => ⟨h.1.numbersKept, h.2.numbersKept⟩

end

section NumbersKept

variable {key : String} {v : Json} {vs ws : List (String × Json)} {items : List Json}

@[simp] theorem numbersKept_text (s : String) : (text s).NumbersKept := trivial

@[simp] theorem numbersKept_bool (b : Bool) : (bool b).NumbersKept := trivial

@[simp] theorem numbersKept_record : (record vs).NumbersKept ↔ NumbersKeptFields vs := .rfl

@[simp] theorem numbersKept_list : (list items).NumbersKept ↔ ∀ v ∈ items, v.NumbersKept := by
  change NumbersKeptItems items ↔ _
  induction items with
  | nil => simp [NumbersKeptItems]
  | cons v items ih => simp [NumbersKeptItems, ih]

@[simp] theorem numbersKeptFields_nil : NumbersKeptFields [] := trivial

@[simp] theorem numbersKeptFields_cons : NumbersKeptFields ((key, v) :: vs) ↔ v.NumbersKept ∧ NumbersKeptFields vs :=
  .rfl

@[simp] theorem numbersKeptFields_append :
    NumbersKeptFields (vs ++ ws) ↔ NumbersKeptFields vs ∧ NumbersKeptFields ws := by
  induction vs with
  | nil => simp
  | cons v vs ih =>
    obtain ⟨key, v⟩ := v
    simp [ih, and_assoc]

@[simp] theorem numbersKeptFields_optional {o : Option Json} :
    NumbersKeptFields (optional key o) ↔ ∀ v ∈ o, v.NumbersKept := by
  cases o <;> simp [optional]

end NumbersKept

/-! ## Trees -/

theorem blank_newline (depth : Nat) : Blank (newline depth) := by
  intro c hc
  rcases List.mem_cons.1 hc with rfl | hc
  · rfl
  · rw [List.eq_of_mem_replicate hc]
    rfl

theorem blank_space : Blank [' '] := blank_singleton rfl

theorem writtenField_quoted (k : String) {v : Json} {b w : List Char} (blank : Blank b) (h : Written v w) :
    WrittenField k v ('"' :: (k.toList.flatMap escapeChar ++ '"' :: ':' :: (b ++ w))) :=
  .mk (spelled_quoted k) blank_nil blank h

mutual

/-- The indented text of a tree is a text of the tree. -/
theorem written_prettyChars : ∀ {v : Json} (depth : Nat), v.NumbersKept → Written v (v.prettyChars depth)
  | null, _, _ => .null
  | bool true, _, _ => .yes
  | bool false, _, _ => .no
  | int _, _, kept => kept
  | float _, _, kept => kept
  | text s, _, _ => written_quoted s
  | list [], _, _ => .emptyList blank_nil
  | list (v :: vs), depth, kept => by
    have hlist := Written.list (blank_newline (depth + 1)) (written_prettyChars (depth + 1) kept.1)
      (moreItems_prettyItems depth kept.2)
    rw [prettyChars]
    simpa only [List.cons_append, List.append_assoc] using hlist
  | record [], _, _ => .emptyRecord blank_nil
  | record ((k, v) :: vs), depth, kept => by
    have hfield := writtenField_quoted k blank_space (written_prettyChars (depth + 1) kept.1)
    have hrecord := Written.record (blank_newline (depth + 1)) hfield (moreFields_prettyFields depth kept.2)
    rw [prettyChars]
    simpa only [quoted, List.cons_append, List.nil_append, List.append_assoc] using hrecord

theorem moreItems_prettyItems : ∀ {vs : List Json} (depth : Nat), NumbersKeptItems vs →
    MoreItems vs (prettyItems (depth + 1) vs ++ newline depth ++ [']'])
  | [], depth, _ => .nil (blank_newline depth)
  | v :: vs, depth, kept => by
    have hitems := MoreItems.cons blank_nil (blank_newline (depth + 1)) (written_prettyChars (depth + 1) kept.1)
      (moreItems_prettyItems depth kept.2)
    rw [prettyItems]
    simpa only [List.cons_append, List.nil_append, List.append_assoc] using hitems

theorem moreFields_prettyFields : ∀ {vs : List (String × Json)} (depth : Nat), NumbersKeptFields vs →
    MoreFields vs (prettyFields (depth + 1) vs ++ newline depth ++ ['}'])
  | [], depth, _ => .nil (blank_newline depth)
  | (k, v) :: vs, depth, kept => by
    have hfield := writtenField_quoted k blank_space (written_prettyChars (depth + 1) kept.1)
    have hfields := MoreFields.cons blank_nil (blank_newline (depth + 1)) hfield (moreFields_prettyFields depth kept.2)
    rw [prettyFields]
    simpa only [quoted, List.cons_append, List.nil_append, List.append_assoc] using hfields

end

mutual

/-- The text without blanks is one, too. -/
theorem written_compactChars : ∀ {v : Json}, v.NumbersKept → Written v v.compactChars
  | null, _ => .null
  | bool true, _ => .yes
  | bool false, _ => .no
  | int _, kept => kept
  | float _, kept => kept
  | text s, _ => written_quoted s
  | list [], _ => .emptyList blank_nil
  | list (v :: vs), kept => by
    have hlist := Written.list blank_nil (written_compactChars kept.1) (moreItems_compactItems kept.2)
    rw [compactChars]
    simpa only [List.cons_append, List.nil_append, List.append_assoc] using hlist
  | record [], _ => .emptyRecord blank_nil
  | record ((k, v) :: vs), kept => by
    have hfield := writtenField_quoted k blank_nil (written_compactChars kept.1)
    have hrecord := Written.record blank_nil hfield (moreFields_compactFields kept.2)
    rw [compactChars]
    simpa only [quoted, List.cons_append, List.nil_append, List.append_assoc] using hrecord

theorem moreItems_compactItems : ∀ {vs : List Json}, NumbersKeptItems vs → MoreItems vs (compactItems vs ++ [']'])
  | [], _ => .nil blank_nil
  | v :: vs, kept => by
    have hitems := MoreItems.cons blank_nil blank_nil (written_compactChars kept.1) (moreItems_compactItems kept.2)
    rw [compactItems]
    simpa only [List.cons_append, List.nil_append, List.append_assoc] using hitems

theorem moreFields_compactFields : ∀ {vs : List (String × Json)}, NumbersKeptFields vs →
    MoreFields vs (compactFields vs ++ ['}'])
  | [], _ => .nil blank_nil
  | (k, v) :: vs, kept => by
    have hfield := writtenField_quoted k blank_nil (written_compactChars kept.1)
    have hfields := MoreFields.cons blank_nil blank_nil hfield (moreFields_compactFields kept.2)
    rw [compactFields]
    simpa only [quoted, List.cons_append, List.nil_append, List.append_assoc] using hfields

end

/-- The text without blanks is decoded as the tree is. -/
theorem ofText_compact {α : Type} (decode : Datum → Except Cause α) {v : Json} (kept : v.NumbersKept)
    (deep : v.depth ≤ maxDepth) : ofText decode v.compact = decode (.ofJson v) := by
  have hread := ofText_of_written decode (written_compactChars kept) blank_nil deep
  rwa [List.append_nil] at hread

/-- The indented text of a tree, and blanks behind it, are decoded as the tree is. -/
theorem ofText_pretty {α : Type} (decode : Datum → Except Cause α) {v : Json} (kept : v.NumbersKept)
    (deep : v.depth ≤ maxDepth) : ofText decode (v.pretty ++ "\n") = decode (.ofJson v) := by
  have blank : Blank ['\n'] := blank_singleton rfl
  have hread := ofText_of_written decode (written_prettyChars 0 kept) blank deep
  rwa [String.ofList_append] at hread

end AgentTrial.Json
