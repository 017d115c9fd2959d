import AgentTrial.Calendar.Date
import Mathlib

/-!
# Date — the dates of days follow one another

A day is found as a place in its year, and that as a place in its month.  From there the date of the next day is the
next date, at the ends of months and years as well, with or without a leap day.  A next date is a greater one, so that
the order of days is the order of their dates.

* `yearStart`, `ofDay_eq`, `ofDay_yearStart_add`: a day in its year.
* `monthAndDay_append`, `exists_month`: a day of the year in its month.
* `ofDay_succ`: the step from a day to the next one.
* `proper_ofDay`: the month and the day of a date are within their bounds.
* `strictMono_key_ofDay`, `compare_ofDay`: the order of all days.
-/

namespace AgentTrial.Date

variable {year : Int} {r : Nat}

/-! ## Years -/

/-- The number of the days of a year. -/
def yearLength (year : Int) : Nat := if isLeap year then 366 else 365

/-- The day on which a year begins.  Every fourth of the years before it has a leap day, but of those that end a century
only every fourth. -/
def yearStart (year : Int) : Int :=
  365 * (year - 1) + (year - 1) / 4 - (year - 1) / 100 + (year - 1) / 400 - epochDay

/-- The date of a day of a year, counted from 0. -/
def onDay (year : Int) (r : Nat) : Date :=
  let (month, d) := monthAndDay 1 (monthLengths year) r
  ⟨year, month, d⟩

theorem isLeap_iff : isLeap year = true ↔ year % 4 = 0 ∧ (year % 100 ≠ 0 ∨ year % 400 = 0) := by
  simp [isLeap]

theorem yearLength_pos (year : Int) : 0 < yearLength year := by
  unfold yearLength
  split_ifs <;> decide

theorem yearStart_succ (year : Int) : yearStart (year + 1) = yearStart year + yearLength year := by
  unfold yearStart yearLength
  split_ifs with hleap
  all_goals
    rw [isLeap_iff] at hleap
    omega

theorem strictMono_yearStart : StrictMono yearStart :=
  strictMono_int_of_lt_succ fun year => by
    have hpos := yearLength_pos year
    rw [yearStart_succ]
    omega

section Count

variable {cycles : Int} {centuries fours years : Nat}

/-- Where a year begins that is counted in cycles of 400 years, centuries, spans of four years and years. -/
theorem yearStart_count (hcenturies : centuries ≤ 3) (hfours : fours ≤ 24) (hyears : years ≤ 3) :
    yearStart (cycles * 400 + centuries * 100 + fours * 4 + years + 1) =
      cycles * 146097 + centuries * 36524 + fours * 1461 + years * 365 - epochDay := by
  have hfour : (cycles * 400 + centuries * 100 + fours * 4 + years) / 4 = cycles * 100 + centuries * 25 + fours := by
    omega
  have hcentury : (cycles * 400 + centuries * 100 + fours * 4 + years) / 100 = cycles * 4 + centuries := by
    omega
  have hcycle : (cycles * 400 + centuries * 100 + fours * 4 + years) / 400 = cycles := by
    omega
  rw [yearStart, Int.add_sub_cancel, hfour, hcentury, hcycle]
  omega

/-- A span of four years ends with a leap year, unless it ends a century that does not end its cycle. -/
theorem isLeap_count (hcenturies : centuries ≤ 3) (hfours : fours ≤ 24) (hyears : years ≤ 3) :
    isLeap (cycles * 400 + centuries * 100 + fours * 4 + years + 1) = true ↔
      years = 3 ∧ (fours = 24 → centuries = 3) := by
  rw [isLeap_iff]
  omega

end Count

/-- Each day is one of the days of a year. -/
theorem ofDay_eq (day : Int) : ∃ year r, r < yearLength year ∧ yearStart year + r = day ∧ ofDay day = onDay year r := by
  let n := day + epochDay
  let s := (n % 146097).toNat
  let centuries := min 3 (s / 36524)
  let t := s - centuries * 36524
  let years := min 3 (t % 1461 / 365)
  have hcenturies : centuries ≤ 3 := Nat.min_le_left 3 _
  have hyears : years ≤ 3 := Nat.min_le_left 3 _
  -- only the last century of a cycle has room for the day that its last year is longer
  have hlast : t ≤ 36524 ∧ (t = 36524 → centuries = 3) := by omega
  have hfours : t / 1461 ≤ 24 := by omega
  refine ⟨n / 146097 * 400 + centuries * 100 + (t / 1461 : Nat) * 4 + years + 1, t % 1461 - years * 365, ?_, ?_, rfl⟩
  · unfold yearLength
    split_ifs with hleap
    · omega
    · rw [isLeap_count hcenturies hfours hyears] at hleap
      omega
  · rw [yearStart_count hcenturies hfours hyears]
    omega

/-- There is only one such year, because each year begins when the one before it is over. -/
theorem ofDay_yearStart_add (h : r < yearLength year) : ofDay (yearStart year + r) = onDay year r := by
  obtain ⟨year', r', hr', hday, heq⟩ := ofDay_eq (yearStart year + r)
  have hnext := yearStart_succ year
  have hnext' := yearStart_succ year'
  have hle : year' < year + 1 := strictMono_yearStart.lt_iff_lt.1 (by omega)
  have hge : year < year' + 1 := strictMono_yearStart.lt_iff_lt.1 (by omega)
  obtain rfl : year' = year := by omega
  obtain rfl : r' = r := by omega
  exact heq

/-! ## Months -/

/-- The number of the days of a month. -/
def monthLength (year : Int) (month : Nat) : Nat := (monthLengths year).getD (month - 1) 0

theorem sum_monthLengths (year : Int) : (monthLengths year).sum = yearLength year := by
  unfold monthLengths yearLength
  cases isLeap year <;> rfl

theorem bounds_of_mem_monthLengths {n : Nat} (h : n ∈ monthLengths year) : 0 < n ∧ n ≤ 31 := by
  unfold monthLengths at h
  revert n
  cases isLeap year <;> decide

theorem monthLength_le (year : Int) (month : Nat) : monthLength year month ≤ 31 := by
  rw [monthLength, List.getD_eq_getElem?_getD]
  cases h : (monthLengths year)[month - 1]? with
  | none => decide
  | some n => exact (bounds_of_mem_monthLengths (List.mem_of_getElem? h)).2

section Months

variable {first n d : Nat} {lengths before after : List Nat}

/-- The day after some whole months is in the month after them. -/
theorem monthAndDay_append (h : d < n) :
    monthAndDay first (before ++ n :: after) (before.sum + d) = (first + before.length, d + 1) := by
  induction before generalizing first with
  | nil => simp [monthAndDay, h]
  | cons m before ih =>
    have hpast : ¬ m + before.sum + d < m := by omega
    have hrest : m + before.sum + d - m = before.sum + d := by omega
    rw [List.cons_append, List.sum_cons, monthAndDay, if_neg hpast, hrest, ih, List.length_cons, Nat.add_right_comm,
      Nat.add_assoc]

/-- Each day of a year is after some whole months. -/
theorem exists_month (h : r < lengths.sum) :
    ∃ before n after d, lengths = before ++ n :: after ∧ before.sum + d = r ∧ d < n := by
  induction lengths generalizing r with
  | nil => cases h
  | cons m lengths ih =>
    rw [List.sum_cons] at h
    by_cases hmonth : r < m
    · exact ⟨[], m, lengths, r, rfl, Nat.zero_add r, hmonth⟩
    · obtain ⟨before, n, after, d, rfl, hsum, hd⟩ := ih (r := r - m) (by omega)
      refine ⟨m :: before, n, after, d, rfl, ?_, hd⟩
      rw [List.sum_cons]
      omega

theorem length_of_split (split : monthLengths year = before ++ n :: after) :
    before.length + (after.length + 1) = 12 := by
  have hlength := congrArg List.length split
  rw [List.length_append, List.length_cons] at hlength
  exact hlength.symm

theorem monthLength_of_split (split : monthLengths year = before ++ n :: after) :
    monthLength year (1 + before.length) = n := by
  simp [monthLength, split]

theorem onDay_of_split (split : monthLengths year = before ++ n :: after) (h : d < n) :
    onDay year (before.sum + d) = ⟨year, 1 + before.length, d + 1⟩ := by
  rw [onDay, split, monthAndDay_append h]

end Months

/-- A month of the year, and a day that this month has in this year. -/
structure Proper (date : Date) : Prop where
  month_pos : 0 < date.month
  month_le : date.month ≤ 12
  day_pos : 0 < date.day
  day_le : date.day ≤ monthLength date.year date.month

/-- Every day has a proper date. -/
theorem proper_ofDay (day : Int) : (ofDay day).Proper := by
  obtain ⟨year, r, hr, -, heq⟩ := ofDay_eq day
  rw [← sum_monthLengths] at hr
  obtain ⟨before, n, after, d, split, rfl, hd⟩ := exists_month hr
  have hcount := length_of_split split
  rw [heq, onDay_of_split split hd]
  refine ⟨by dsimp only; omega, by dsimp only; omega, Nat.succ_pos d, ?_⟩
  rw [monthLength_of_split split]
  exact hd

/-! ## The next day -/

/-- The next date: the next day of the month, or else the first day of the next month, or else that of the next year. -/
def next (date : Date) : Date :=
  if date.day < monthLength date.year date.month then { date with day := date.day + 1 }
  else if date.month < 12 then ⟨date.year, date.month + 1, 1⟩
  else ⟨date.year + 1, 1, 1⟩

theorem onDay_zero (year : Int) : onDay year 0 = ⟨year, 1, 1⟩ := rfl

theorem next_onDay (h : r < yearLength year) :
    (onDay year r).next = if r + 1 < yearLength year then onDay year (r + 1) else onDay (year + 1) 0 := by
  rw [← sum_monthLengths] at h ⊢
  obtain ⟨before, n, after, d, split, rfl, hd⟩ := exists_month h
  have hcount := length_of_split split
  have hsum : (monthLengths year).sum = before.sum + (n + after.sum) := by
    rw [split, List.sum_append, List.sum_cons]
  rw [onDay_of_split split hd, next, monthLength_of_split split]
  by_cases hmonth : d + 1 < n
  · rw [if_pos hmonth, if_pos (by omega)]
    exact (onDay_of_split split hmonth).symm
  · obtain rfl : n = d + 1 := by omega
    rw [if_neg hmonth]
    cases after with
    | nil =>
      rw [List.length_nil] at hcount
      rw [List.sum_nil] at hsum
      rw [if_neg (by dsimp only; omega), if_neg (by omega), onDay_zero]
    | cons m after =>
      -- the month is one of the whole months before the next day
      have split' : monthLengths year = (before ++ [d + 1]) ++ m :: after := by simp [split]
      have hmem : m ∈ monthLengths year := by simp [split]
      have hm : 0 < m := (bounds_of_mem_monthLengths hmem).1
      have hfirst := onDay_of_split split' hm
      simp only [List.length_append, List.sum_append, List.length_singleton, List.sum_singleton, Nat.add_zero] at hfirst
      rw [List.length_cons] at hcount
      rw [List.sum_cons] at hsum
      rw [if_pos (by dsimp only; omega), if_pos (by omega), Nat.add_assoc before.sum, hfirst, Nat.add_assoc]

/-- The date of the next day is the next date. -/
theorem ofDay_succ (day : Int) : ofDay (day + 1) = (ofDay day).next := by
  obtain ⟨year, r, hr, rfl, heq⟩ := ofDay_eq day
  rw [heq, next_onDay hr]
  split_ifs with hsame
  · rw [Int.add_assoc, ← Int.natCast_succ, ofDay_yearStart_add hsame]
  · have hfirst : yearStart year + r + 1 = yearStart (year + 1) + (0 : Nat) := by
      rw [yearStart_succ]
      omega
    rw [hfirst, ofDay_yearStart_add (yearLength_pos _)]

/-- Where the count begins. -/
example : ofDay 0 = ⟨1970, 1, 1⟩ := by decide

/-! ## The order of days -/

/-- A date as it is compared: by the year, then by the month, then by the day. -/
def key (date : Date) : ℤ ×ₗ ℕ ×ₗ ℕ := toLex (date.year, toLex (date.month, date.day))

theorem key_lt_next (date : Date) : date.key < date.next.key := by
  unfold next key
  split_ifs <;> simp [Prod.Lex.toLex_lt_toLex]

/-- Later days have later dates: each has the next date of the day before. -/
theorem strictMono_key_ofDay : StrictMono fun day => (ofDay day).key :=
  strictMono_int_of_lt_succ fun day => by
    rw [ofDay_succ]
    exact key_lt_next _

theorem compare_key (date date' : Date) : compare date.key date'.key =
    (compare date.year date'.year).then ((compare date.month date'.month).then (compare date.day date'.day)) := by
  simp only [key, Prod.Lex.compare_def, compareLex, compareOn, ofLex_toLex]

/-- Dates are compared like the days that they are the dates of. -/
theorem compare_ofDay (day day' : Int) : compare (ofDay day).key (ofDay day').key = compare day day' := by
  rw [← cmp_eq_compare, ← cmp_eq_compare]
  exact strictMono_key_ofDay.cmp_map_eq day day'

end AgentTrial.Date
