import AgentTrial.Calendar.Date

/-!
# Stamp — names made of instants

An instant is written to the millisecond with letters and digits alone, its greatest part first, so that names sort by
time.  A leap second is the sixtieth second of its minute.
-/

namespace AgentTrial

/-- An instant: seconds since the start of 1970, and nanoseconds, which pass 10^9 in a leap second. -/
structure Instant where
  seconds : Int
  nanos : Nat
  deriving Repr, DecidableEq

namespace Instant

/-- The first second of the calendar. -/
def firstSecond : Int := -8334601228800

/-- The last second of the calendar. -/
def lastSecond : Int := 8210266876799

/-- Does the calendar have this instant? -/
def isValid (t : Instant) : Bool :=
  firstSecond ≤ t.seconds && t.seconds ≤ lastSecond &&
    (t.nanos < 1000000000 || (t.nanos < 2000000000 && t.seconds % 60 == 59))

/-- A natural number with at least that many digits. -/
def padded (width n : Nat) : List Char :=
  let ds := Nat.toDigits 10 n
  List.replicate (width - ds.length) '0' ++ ds

/-- A year; outside of 0 to 9999 it has a sign. -/
def yearText (year : Int) : List Char :=
  if 0 ≤ year ∧ year ≤ 9999 then padded 4 year.toNat
  else (if year < 0 then '-' else '+') :: padded 4 year.natAbs

/-- The stamp of an instant. -/
def stamp (t : Instant) : String :=
  let date := Date.ofDay (t.seconds / 86400)
  let s := (t.seconds % 86400).toNat
  .ofList (yearText date.year ++ padded 2 date.month ++ padded 2 date.day ++ ['T'] ++ padded 2 (s / 3600) ++
    padded 2 (s / 60 % 60) ++ padded 2 (s % 60 + t.nanos / 1000000000) ++
    padded 3 (t.nanos % 1000000000 / 1000000))

/-- The stamp of an instant, if the calendar has it. -/
def stamp? (t : Instant) : Option String := if t.isValid then some t.stamp else none

end Instant

end AgentTrial
