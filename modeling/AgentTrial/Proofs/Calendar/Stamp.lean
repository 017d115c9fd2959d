import AgentTrial.Calendar.Stamp
import AgentTrial.Proofs.Calendar.Date
import AgentTrial.Proofs.Order

/-!
# Stamp — names of instants sort by time

In the years 0 to 9999 each number of a stamp fills its places, and a greater number comes before a lesser one.  So two
stamps are compared like their dates, then like the seconds of their days, and then like the milliseconds.  A leap second
is written as a second of its own, and still it is the end of the minute that it is in.

* `Instant.compare_padded`: numbers with leading zeros are compared like their texts.
* `Instant.compare_clock`: the numbers after the date, over a leap second as well.
* `Instant.compare_stamp`, `Instant.stamps_sort`: stamps are compared like instants are to the millisecond.
-/

namespace AgentTrial.Instant

/-! ## Numbers in places -/

section Padded

variable {width n m : Nat}

theorem padded_one (h : n < 10) : padded 1 n = [n.digitChar] := by
  rw [padded, Nat.toDigits_of_lt_base h]
  rfl

/-- The last place has the last digit. -/
theorem padded_succ (width n : Nat) : padded (width + 2) n = padded (width + 1) (n / 10) ++ [(n % 10).digitChar] := by
  by_cases h : n < 10
  · rw [padded, padded, Nat.toDigits_of_lt_base h, Nat.div_eq_of_lt h, Nat.mod_eq_of_lt h,
      Nat.toDigits_of_lt_base (by decide)]
    simp [List.replicate_succ']
  · rw [padded, padded, Nat.toDigits_of_base_le (by decide) (Nat.le_of_not_lt h)]
    simp

theorem div_ten_lt (h : n < 10 ^ (width + 2)) : n / 10 < 10 ^ (width + 1) :=
  Nat.div_lt_of_lt_mul (by rwa [Nat.pow_succ'] at h)

theorem length_padded (h : n < 10 ^ (width + 1)) : (padded (width + 1) n).length = width + 1 := by
  induction width generalizing n with
  | zero =>
    rw [padded_one h]
    rfl
  | succ width ih =>
    rw [padded_succ, List.length_append, ih (div_ten_lt h)]
    rfl

theorem compare_digitChar : ∀ n < 10, ∀ m < 10, compare [n.digitChar] [m.digitChar] = compare n m := by
  decide

/-- Numbers in as many places are compared like their texts. -/
theorem compare_padded (hn : n < 10 ^ (width + 1)) (hm : m < 10 ^ (width + 1)) :
    compare (padded (width + 1) n) (padded (width + 1) m) = compare n m := by
  induction width generalizing n m with
  | zero =>
    rw [padded_one hn, padded_one hm]
    exact compare_digitChar n hn m hm
  | succ width ih =>
    have hsame : (padded (width + 1) (n / 10)).length = (padded (width + 1) (m / 10)).length :=
      (length_padded (div_ten_lt hn)).trans (length_padded (div_ten_lt hm)).symm
    rw [padded_succ, padded_succ, Text.compare_append hsame, ih (div_ten_lt hn) (div_ten_lt hm),
      compare_digitChar _ (Nat.mod_lt n (by decide)) _ (Nat.mod_lt m (by decide)), compare_div_mod (by decide)]

theorem compare_padded_append (hn : n < 10 ^ (width + 1)) (hm : m < 10 ^ (width + 1)) (l l' : List Char) :
    compare (padded (width + 1) n ++ l) (padded (width + 1) m ++ l') = (compare n m).then (compare l l') := by
  rw [Text.compare_append ((length_padded hn).trans (length_padded hm).symm), compare_padded hn hm]

theorem isAlphanum_of_mem_padded {c : Char} (h : c ∈ padded width n) : c.isAlphanum = true := by
  rcases List.mem_append.1 h with hzero | hdigit
  · rw [List.eq_of_mem_replicate hzero]
    rfl
  · rw [Char.isAlphanum, Nat.isDigit_of_mem_toDigits (by decide) (by decide) hdigit, Bool.or_true]

end Padded

/-! ## The parts of an instant -/

variable {t u : Instant}

/-- Instants are compared by their seconds, and in one second by their nanoseconds. -/
instance : Ord Instant where
  compare t u := (compare t.seconds u.seconds).then (compare t.nanos u.nanos)

/-- An instant without what it has past its millisecond. -/
def toMillisecond (t : Instant) : Instant := { t with nanos := t.nanos / 1000000 * 1000000 }

/-- The date of an instant. -/
def date (t : Instant) : Date := Date.ofDay (t.seconds / 86400)

/-- The seconds of the day that are over. -/
def daySecond (t : Instant) : Nat := (t.seconds % 86400).toNat

/-- The hour of the day. -/
def hour (t : Instant) : Nat := t.daySecond / 3600

/-- The minute of the hour. -/
def minute (t : Instant) : Nat := t.daySecond / 60 % 60

/-- The second of the minute; a leap second is the second after the fifty-ninth. -/
def second (t : Instant) : Nat := t.daySecond % 60 + t.nanos / 1000000000

/-- The millisecond of the second, which may be a leap second. -/
def millisecond (t : Instant) : Nat := t.nanos % 1000000000 / 1000000

/-- An instant of the calendar in the years 0 to 9999. -/
structure FourDigit (t : Instant) : Prop where
  valid : t.isValid = true
  year_nonneg : 0 ≤ t.date.year
  year_le : t.date.year ≤ 9999

/-- The numbers of a stamp have no more digits than places. -/
structure Fits (t : Instant) : Prop where
  year : t.date.year.toNat < 10 ^ 4
  month : t.date.month < 10 ^ 2
  day : t.date.day < 10 ^ 2
  hour : t.hour < 10 ^ 2
  minute : t.minute < 10 ^ 2
  second : t.second < 10 ^ 2
  millisecond : t.millisecond < 10 ^ 3

theorem compare_eq_eq_iff : compare t u = .eq ↔ t = u := by
  obtain ⟨seconds, nanos⟩ := t
  obtain ⟨seconds', nanos'⟩ := u
  refine Ordering.then_eq_eq.trans ?_
  rw [compare_eq_iff_eq, compare_eq_iff_eq, mk.injEq]

theorem isValid_iff : t.isValid = true ↔ (firstSecond ≤ t.seconds ∧ t.seconds ≤ lastSecond) ∧
    (t.nanos < 1000000000 ∨ t.nanos < 2000000000 ∧ t.seconds % 60 = 59) := by
  simp [isValid]

/-- Only the last second of a minute may be a leap second. -/
theorem FourDigit.leap (h : t.FourDigit) :
    t.nanos < 2000000000 ∧ (1000000000 ≤ t.nanos → t.daySecond % 60 = 59) := by
  have hnanos := (isValid_iff.1 h.valid).2
  unfold daySecond
  omega

theorem FourDigit.fits (h : t.FourDigit) : t.Fits := by
  have hproper := Date.proper_ofDay (t.seconds / 86400)
  have hmonth : t.date.month ≤ 12 := hproper.month_le
  have hday : t.date.day ≤ 31 := hproper.day_le.trans (Date.monthLength_le _ _)
  have hsecond : t.daySecond < 86400 := by
    unfold daySecond
    omega
  have hyear := h.year_le
  have hleap := h.leap
  refine ⟨by omega, by omega, by omega, ?_, ?_, ?_, ?_⟩
  · unfold hour
    omega
  · unfold minute
    omega
  · unfold second
    omega
  · unfold millisecond
    omega

/-! ## Stamps -/

theorem toList_stamp (h : t.FourDigit) : t.stamp.toList =
    padded 4 t.date.year.toNat ++ padded 2 t.date.month ++ padded 2 t.date.day ++ ['T'] ++ padded 2 t.hour ++
      padded 2 t.minute ++ padded 2 t.second ++ padded 3 t.millisecond := by
  have hyear : yearText t.date.year = padded 4 t.date.year.toNat := if_pos ⟨h.year_nonneg, h.year_le⟩
  rw [← hyear]
  exact String.toList_ofList

theorem length_stamp (h : t.FourDigit) : t.stamp.length = 18 := by
  have hfits := h.fits
  rw [← String.length_toList, toList_stamp h]
  simp only [List.length_append, length_padded hfits.year, length_padded hfits.month, length_padded hfits.day,
    length_padded hfits.hour, length_padded hfits.minute, length_padded hfits.second, length_padded hfits.millisecond,
    List.length_singleton]

theorem isAlphanum_of_mem_stamp (h : t.FourDigit) {c : Char} (hc : c ∈ t.stamp.toList) : c.isAlphanum = true := by
  rw [toList_stamp h] at hc
  simp only [List.mem_append, List.mem_singleton] at hc
  rcases hc with ((((((hc | hc) | hc) | rfl) | hc) | hc) | hc) | hc
  all_goals first | rfl | exact isAlphanum_of_mem_padded hc

/-- In a minute, what is written of a leap second is compared like the instants are, because it is the minute's last
second that is so long. -/
theorem compare_second (ht : t.FourDigit) (hu : u.FourDigit) :
    (compare t.second u.second).then (compare t.millisecond u.millisecond) =
      (compare (t.daySecond % 60) (u.daySecond % 60)).then (compare (t.nanos / 1000000) (u.nanos / 1000000)) := by
  have hleap := ht.leap
  have hleap' := hu.leap
  have hsum (t : Instant) : t.second * 1000 + t.millisecond = t.daySecond % 60 * 1000 + t.nanos / 1000000 := by
    unfold second millisecond
    omega
  have hmillisecond (t : Instant) : t.millisecond < 1000 := by
    unfold millisecond
    omega
  rw [compare_mul_add_nat (fun _ => hmillisecond t) (fun _ => hmillisecond u), hsum, hsum]
  exact (compare_mul_add_nat (by omega) (by omega)).symm

theorem compare_clock (ht : t.FourDigit) (hu : u.FourDigit) :
    (compare t.hour u.hour).then ((compare t.minute u.minute).then
        ((compare t.second u.second).then (compare t.millisecond u.millisecond))) =
      (compare t.daySecond u.daySecond).then (compare (t.nanos / 1000000) (u.nanos / 1000000)) := by
  have hhour (t : Instant) : t.hour = t.daySecond / 60 / 60 := (Nat.div_div_eq_div_mul t.daySecond 60 60).symm
  have hsixty : 0 < 60 := by decide
  rw [compare_second ht hu, hhour, hhour, minute, minute, ← Ordering.then_assoc, compare_div_mod hsixty,
    ← Ordering.then_assoc, compare_div_mod hsixty]

theorem compare_toMillisecond (t u : Instant) : compare t.toMillisecond u.toMillisecond =
    (compare t.date.key u.date.key).then
      ((compare t.daySecond u.daySecond).then (compare (t.nanos / 1000000) (u.nanos / 1000000))) := by
  have hday : (compare (t.seconds / 86400) (u.seconds / 86400)).then (compare t.daySecond u.daySecond) =
      compare t.seconds u.seconds := compare_ediv_emod (k := 86400) (by decide) _ _
  have hnanos : compare (t.nanos / 1000000 * 1000000) (u.nanos / 1000000 * 1000000) =
      compare (t.nanos / 1000000) (u.nanos / 1000000) := by
    rw [← cmp_eq_compare, ← cmp_eq_compare]
    exact cmp_mul_pos_right (by decide) _ _
  rw [date, date, Date.compare_ofDay, ← Ordering.then_assoc, hday, ← hnanos]
  rfl

theorem compare_stamp (ht : t.FourDigit) (hu : u.FourDigit) :
    compare t.stamp u.stamp = compare t.toMillisecond u.toMillisecond := by
  have hfits := ht.fits
  have hfits' := hu.fits
  have hmark (l l' : List Char) : compare (['T'] ++ l) (['T'] ++ l') = compare l l' := Text.compare_append rfl
  have hyear : compare t.date.year.toNat u.date.year.toNat = compare t.date.year u.date.year := by
    rw [← compare_natCast, Int.toNat_of_nonneg ht.year_nonneg, Int.toNat_of_nonneg hu.year_nonneg]
  rw [← Text.compare_toList, toList_stamp ht, toList_stamp hu]
  simp only [List.append_assoc]
  rw [compare_padded_append hfits.year hfits'.year, compare_padded_append hfits.month hfits'.month,
    compare_padded_append hfits.day hfits'.day, hmark, compare_padded_append hfits.hour hfits'.hour,
    compare_padded_append hfits.minute hfits'.minute, compare_padded_append hfits.second hfits'.second,
    compare_padded hfits.millisecond hfits'.millisecond, compare_clock ht hu, hyear, compare_toMillisecond,
    Date.compare_key]
  simp only [Ordering.then_assoc]

/-- Two instants of the calendar in the years 0 to 9999 have stamps of eighteen letters and digits, which are compared
like the instants are to the millisecond.  So the stamps are the same only for the same millisecond. -/
theorem stamps_sort (ht : t.FourDigit) (hu : u.FourDigit) : ∃ s s', t.stamp? = some s ∧ u.stamp? = some s' ∧
    s.length = 18 ∧ s'.length = 18 ∧ (∀ c ∈ s.toList ++ s'.toList, c.isAlphanum = true) ∧
    compare s s' = compare t.toMillisecond u.toMillisecond ∧ (s = s' ↔ t.toMillisecond = u.toMillisecond) := by
  have hcompare := compare_stamp ht hu
  refine ⟨t.stamp, u.stamp, if_pos ht.valid, if_pos hu.valid, length_stamp ht, length_stamp hu, ?_, hcompare, ?_⟩
  · intro c hc
    rcases List.mem_append.1 hc with hc | hc
    · exact isAlphanum_of_mem_stamp ht hc
    · exact isAlphanum_of_mem_stamp hu hc
  · rw [← compare_eq_iff_eq, hcompare, compare_eq_eq_iff]

/-- The last nanosecond of the leap second of 2016, and the first one of the year after it. -/
theorem stamps_sort_leapSecond : let t : Instant := ⟨1483228799, 1999999999⟩
    let u : Instant := ⟨1483228800, 0⟩
    ∃ s s', t.stamp? = some s ∧ u.stamp? = some s' ∧ s.length = 18 ∧ s'.length = 18 ∧ compare s s' = .lt ∧ s ≠ s' := by
  intro t u
  have ht : t.FourDigit := ⟨by decide, by decide, by decide⟩
  have hu : u.FourDigit := ⟨by decide, by decide, by decide⟩
  obtain ⟨s, s', hs, hs', hlength, hlength', -, hcompare, hsame⟩ := stamps_sort ht hu
  have hlt : compare t.toMillisecond u.toMillisecond = .lt := by decide
  exact ⟨s, s', hs, hs', hlength, hlength', hcompare.trans hlt, fun h => absurd (hsame.1 h) (by decide)⟩

/-- The sign of a year of five digits sorts it before the years of four. -/
example : compare (stamp ⟨253402300800, 0⟩) (stamp ⟨253402300799, 0⟩) = .lt := by decide

end AgentTrial.Instant
