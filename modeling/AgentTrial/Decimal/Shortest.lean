import AgentTrial.Decimal.Binary

/-!
# Shortest — the fewest decimal digits that read back

The reals that round to `m · 2 ^ q` form an interval around it, ends included exactly when `m` is even.  For one digit,
two digits and so on, the two neighbours of the value on that decimal grid are tested; the first grid with a hit wins
and of two hits the nearer.  Everything is exact arithmetic on naturals.
-/

namespace AgentTrial.Decimal

/-- The number `digits · 10 ^ exp`. -/
structure Digits where
  digits : Nat
  exp : Int
  deriving Repr, DecidableEq

/-- Compares `a · 10 ^ i` with `b · 2 ^ j`. -/
def compareScaled (a : Nat) (i : Int) (b : Nat) (j : Int) : Ordering :=
  compare (a * Nat.pow 10 i.toNat * Nat.pow 2 (-j).toNat) (b * Nat.pow 2 j.toNat * Nat.pow 10 (-i).toNat)

/-- Does `d · 10 ^ e` round to `m · 2 ^ q`?  Below a power of two the gap is half as wide. -/
def readsBack (m : Nat) (q : Int) (d : Nat) (e : Int) : Bool :=
  let low := if m == Nat.pow 2 52 && q > -1074 then 4 * m - 1 else 4 * m - 2
  let high := 4 * m + 2
  match compareScaled d e low (q - 2), compareScaled d e high (q - 2) with
  | .gt, .lt => true
  | .eq, _ => m % 2 == 0
  | _, .eq => m % 2 == 0
  | _, _ => false

/-- The whole part of `m · 2 ^ q / 10 ^ e`. -/
def gridFloor (m : Nat) (q : Int) (e : Int) : Nat :=
  (m * Nat.pow 2 q.toNat * Nat.pow 10 (-e).toNat) / (Nat.pow 10 e.toNat * Nat.pow 2 (-q).toNat)

/-- The least `k` at or above the estimate with `m · 2 ^ q < 10 ^ k`, in at most `fuel` steps. -/
def scaleFrom (m : Nat) (q : Int) : Nat → Int → Int
  | 0, k => k
  | fuel + 1, k => if compareScaled 1 k m q == .gt then k else scaleFrom m q fuel (k + 1)

/-- The least `k` with `m · 2 ^ q < 10 ^ k`. -/
def scale (m : Nat) (q : Int) : Int :=
  scaleFrom m q 4 (((m.log2 : Int) + q) * 30103 / 100000 - 1)

/-- The nearest point of the grid `10 ^ e` that reads back, an even one of two equally near. -/
def onGrid? (m : Nat) (q : Int) (e : Int) : Option Nat :=
  let d := gridFloor m q e
  match readsBack m q d e, readsBack m q (d + 1) e with
  | false, false => none
  | true, false => some d
  | false, true => some (d + 1)
  | true, true =>
    match compareScaled (2 * d + 1) e (2 * m) q with
    | .gt => some d
    | .lt => some (d + 1)
    | .eq => some (if d % 2 == 0 then d else d + 1)

/-- The first grid with a hit among `fuel` grids, each ten times finer than the one before. -/
def searchFrom (m : Nat) (q : Int) : Nat → Int → Option Digits
  | 0, _ => none
  | fuel + 1, e =>
    match onGrid? m q e with
    | some d => some ⟨d, e⟩
    | none => searchFrom m q fuel (e - 1)

/-- Trailing zeros moved into the exponent. -/
def stripZeros : Nat → Digits → Digits
  | 0, d => d
  | fuel + 1, d => if d.digits != 0 && d.digits % 10 == 0 then stripZeros fuel ⟨d.digits / 10, d.exp + 1⟩ else d

/-- The fewest digits that read back to `m · 2 ^ q`, and all its digits should seventeen not be enough. -/
def shortest (m : Nat) (q : Int) : Digits :=
  if m == 0 then ⟨0, 0⟩
  else
    match searchFrom m q 17 (scale m q - 1) with
    | some d => stripZeros 20 d
    | none => if q ≥ 0 then ⟨m * Nat.pow 2 q.toNat, 0⟩ else ⟨m * Nat.pow 5 (-q).toNat, q⟩

end AgentTrial.Decimal
