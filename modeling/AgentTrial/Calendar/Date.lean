/-!
# Date — days of the calendar

A day is a number counted from the first of January 1970.  The calendar repeats after 400 years, so a date is found by
cutting the count into cycles, centuries, spans of four years, years and months.
-/

namespace AgentTrial

/-- A date of the calendar. -/
structure Date where
  year : Int
  month : Nat
  day : Nat
  deriving Repr, DecidableEq

namespace Date

/-- Has the year a twenty-ninth of February? -/
def isLeap (year : Int) : Bool := year % 4 == 0 && (year % 100 != 0 || year % 400 == 0)

/-- The lengths of the months of a year. -/
def monthLengths (year : Int) : List Nat :=
  [31, if isLeap year then 29 else 28, 31, 30, 31, 30, 31, 31, 30, 31, 30, 31]

/-- The month and the day of a day of the year, both counted from 1; the first argument is the month of the first
length. -/
def monthAndDay : Nat → List Nat → Nat → Nat × Nat
  | month, [], r => (month, r + 1)
  | month, n :: lengths, r => if r < n then (month, r + 1) else monthAndDay (month + 1) lengths (r - n)

/-- The days from the first of January of the year 1 to the first of January 1970. -/
def epochDay : Int := 719162

/-- The date of a day. -/
def ofDay (day : Int) : Date :=
  let n := day + epochDay
  let cycles := n / 146097
  let r := (n % 146097).toNat
  let centuries := min 3 (r / 36524)
  let r := r - centuries * 36524
  let fours := r / 1461
  let r := r % 1461
  let years := min 3 (r / 365)
  let year := cycles * 400 + centuries * 100 + fours * 4 + years + 1
  let (month, d) := monthAndDay 1 (monthLengths year) (r - years * 365)
  ⟨year, month, d⟩

end Date

end AgentTrial
