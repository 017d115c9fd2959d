import AgentTrial.Decimal.Binary

/-!
# Reading — decimal text as a double

`nearest` is the double nearest to a decimal number.  `scaled` is the quick way value trees are read: the digits become
a double first and are then multiplied or divided by powers of ten, each step rounded on its own.
-/

namespace AgentTrial.Decimal

/-- The value of a list of decimal digits. -/
def ofDigitChars (ds : List Char) : Nat := ds.foldl (fun n c => 10 * n + (c.toNat - 48)) 0

/-- The double nearest to `digits · 10 ^ exp`.  Numbers outside `10 ^ ± 400` are settled by their size. -/
def nearest (digits : Nat) (exp : Int) : Float :=
  if digits == 0 then 0
  else
    let magnitude := exp + (Nat.toDigits 10 digits).length
    if magnitude > 400 then 1.0 / 0.0
    else if magnitude < -400 then 0
    else if exp < 0 then Float.ofScientific digits true (-exp).toNat
    else Float.ofScientific digits false exp.toNat

/-- The double of `10 ^ n`. -/
def powerOfTen (n : Nat) : Float := Float.ofScientific 1 false n

/-- A double divided by `10 ^ 308` until the exponent is above `-309`, at most `fuel` times. -/
def scaleDown : Nat → Float → Nat → Float
  | 0, x, _ => x
  | fuel + 1, x, n =>
    if n ≤ 308 then x / powerOfTen n
    else if x == 0 then x
    else scaleDown fuel (x / powerOfTen 308) (n - 308)

/-- `significand · 10 ^ exp` in steps of doubles; `none` when a step leaves the finite range. -/
def scaled (significand : Nat) (exp : Int) : Option Float :=
  let x := significand.toUInt64.toFloat
  if exp < 0 then some (scaleDown 4 x (-exp).toNat)
  else if exp.toNat ≤ 308 then
    let y := x * powerOfTen exp.toNat
    if isFinite y then some y else none
  else if x == 0 then some x
  else none

/-- A decimal number as written: sign, whole digits, fraction digits, exponent. -/
structure Written where
  negative : Bool
  whole : List Char
  fraction : List Char
  exp : Int
  deriving Repr, DecidableEq

/-- The digits at the start of a list, and the rest. -/
def spanDigits (s : List Char) : List Char × List Char := (s.takeWhile Char.isDigit, s.dropWhile Char.isDigit)

/-- The sign at the start of a list, `true` for minus, and the rest. -/
def spanSign : List Char → Bool × List Char
  | '-' :: s => (true, s)
  | '+' :: s => (false, s)
  | s => (false, s)

/-- Reads a number with an optional sign, at least one digit on either side of an optional point, and an optional
exponent; the whole text has to be used up. -/
def Written.ofChars? (s : List Char) : Option Written :=
  let (negative, s) := spanSign s
  let (whole, s) := spanDigits s
  let (fraction, s) := match s with
    | '.' :: t => spanDigits t
    | t => ([], t)
  if whole.isEmpty && fraction.isEmpty then none
  else
    match s with
    | [] => some ⟨negative, whole, fraction, 0⟩
    | c :: t =>
      if c == 'e' || c == 'E' then
        let (down, t) := spanSign t
        let (ds, rest) := spanDigits t
        if ds.isEmpty || !rest.isEmpty then none
        else some ⟨negative, whole, fraction, if down then -(ofDigitChars ds) else ofDigitChars ds⟩
      else none

/-- The double nearest to a written number. -/
def Written.toFloat (w : Written) : Float :=
  let x := nearest (ofDigitChars (w.whole ++ w.fraction)) (w.exp - w.fraction.length)
  if w.negative then -x else x

/-- The double that a text names: a written number, or a word for an infinity or for what is no number. -/
def ofText? (s : String) : Option Float :=
  match Written.ofChars? s.toList with
  | some w => some w.toFloat
  | none =>
    let (negative, rest) := spanSign s.toList
    let word := String.ofList (rest.map Char.toLower)
    if word = "inf" || word = "infinity" then some (if negative then -1.0 / 0.0 else 1.0 / 0.0)
    else if word = "nan" then some (0.0 / 0.0)
    else none

end AgentTrial.Decimal
