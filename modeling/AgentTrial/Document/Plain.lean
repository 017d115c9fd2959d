import AgentTrial.Decimal.Reading

/-!
# Plain — the kinds of a scalar without quotes

What an unquoted scalar of a block document stands for when a null, a boolean, a number or nothing in particular is
wanted.  Digits after a leading zero are no number, and only finite numbers are written with digits.
-/

namespace AgentTrial.Document.Plain

/-- The words for null. -/
def isNull (s : String) : Bool := s == "~" || s == "null" || s == "Null" || s == "NULL"

/-- The words for the booleans. -/
def bool? (s : String) : Option Bool :=
  if s == "true" || s == "True" || s == "TRUE" then some true
  else if s == "false" || s == "False" || s == "FALSE" then some false
  else none

/-- The value of a digit in a base. -/
def digit? (base : Nat) (c : Char) : Option Nat :=
  let n := c.toNat
  let v := if 48 ≤ n && n ≤ 57 then n - 48 else if 97 ≤ n && n ≤ 122 then n - 87 else if 65 ≤ n && n ≤ 90 then n - 55 else base
  if v < base then some v else none

/-- The value of a nonempty list of digits in a base. -/
def digits? (base : Nat) : List Char → Option Nat
  | [] => none
  | ds => ds.foldl (fun n c => return base * (← n) + (← digit? base c)) (some 0)

/-- Digits after a leading zero. -/
def hasLeadingZero : List Char → Bool
  | '0' :: c :: s => (c :: s).all Char.isDigit
  | _ => false

/-- The magnitude of an integer without a sign, in base ten or after `0x`, `0o` or `0b`. -/
def magnitude? : List Char → Option Nat
  | '0' :: 'x' :: s => digits? 16 s
  | '0' :: 'o' :: s => digits? 8 s
  | '0' :: 'b' :: s => digits? 2 s
  | s => if hasLeadingZero s then none else digits? 10 s

/-- A natural number, with an optional plus. -/
def nat? : List Char → Option Nat
  | '+' :: s => magnitude? s
  | s => magnitude? s

/-- A negative integer by its magnitude. -/
def negative? : List Char → Option Nat
  | '-' :: s => magnitude? s
  | _ => none

/-- A double: the words for the infinities and for no number, or digits of a finite number. -/
def float? (s : String) : Option Float :=
  let unsigned := if s.startsWith "+" then (s.drop 1).toString else s
  if s.startsWith "+" && (unsigned.startsWith "+" || unsigned.startsWith "-") then none
  else if unsigned == ".inf" || unsigned == ".Inf" || unsigned == ".INF" then some (1.0 / 0.0)
  else if s == "-.inf" || s == "-.Inf" || s == "-.INF" then some (-1.0 / 0.0)
  else if s == ".nan" || s == ".NaN" || s == ".NAN" then some (0.0 / 0.0)
  else
    match Decimal.Written.ofChars? unsigned.toList with
    | some w => if Decimal.isFinite w.toFloat then some w.toFloat else none
    | none => none

end AgentTrial.Document.Plain
