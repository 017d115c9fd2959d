import AgentTrial.Decimal.Shortest

/-!
# Form — how the digits of a number are laid out

Which digits are written is settled by `shortest`; a `Form` says where the positional form ends, whether a whole
number keeps a fraction and how the values without digits are spelled.
-/

namespace AgentTrial.Decimal

/-- The layout decisions of a number format.  The point of a number is the place of its decimal point counted from its
first digit: `1.5` has point 1 and `0.05` has point -1. -/
structure Form where
  /-- The least and the greatest point written positionally; without them every number is. -/
  positional : Option (Int × Int)
  /-- Is a whole number written with the fraction `.0`? -/
  keepsFraction : Bool
  /-- What stands before an exponent that is not negative. -/
  exponentSign : List Char
  /-- The text of a value that is no number. -/
  nan : String
  /-- The text of an infinity, after its sign. -/
  infinity : String

namespace Form

/-- The characters of a natural number. -/
def digitsOf (n : Nat) : List Char := (Nat.toDigits 10 n)

/-- The positional form. -/
def layoutPositional (f : Form) (ds : List Char) (point : Int) : List Char :=
  if point ≤ 0 then '0' :: '.' :: (List.replicate (-point).toNat '0' ++ ds)
  else if (ds.length : Int) ≤ point then
    ds ++ List.replicate (point.toNat - ds.length) '0' ++ if f.keepsFraction then ['.', '0'] else []
  else ds.take point.toNat ++ '.' :: ds.drop point.toNat

/-- The form with an exponent. -/
def layoutScientific (f : Form) (ds : List Char) (point : Int) : List Char :=
  ds.take 1 ++ (if ds.length ≤ 1 then [] else '.' :: ds.drop 1) ++
    'e' :: ((if point - 1 < 0 then ['-'] else f.exponentSign) ++ digitsOf (point - 1).natAbs)

/-- The form of an unsigned number. -/
def layout (f : Form) (d : Digits) : List Char :=
  if d.digits == 0 then if f.keepsFraction then ['0', '.', '0'] else ['0']
  else
    let ds := digitsOf d.digits
    let point := d.exp + ds.length
    match f.positional with
    | none => f.layoutPositional ds point
    | some (low, high) =>
      if low ≤ point && point ≤ high then f.layoutPositional ds point else f.layoutScientific ds point

/-- The text of a double. -/
def render (f : Form) (x : Float) : String :=
  match Binary.ofFloat x with
  | .nan => f.nan
  | .infinity negative => (if negative then "-" else "") ++ f.infinity
  | .finite negative m q => (if negative then "-" else "") ++ .ofList (f.layout (shortest m q))

end Form

/-- Messages write numbers positionally and a whole number without a fraction. -/
def message : Form := ⟨none, false, [], "NaN", "inf"⟩

/-- Programs write numbers from 0.0001 up to 10^16 positionally and always with a fraction or an exponent. -/
def program : Form := ⟨some (-3, 16), true, [], "NaN", "inf"⟩

/-- Value trees write numbers from 0.00001 up to 10^16 positionally and a great exponent with its sign; what is no
finite number has no digits. -/
def tree : Form := ⟨some (-4, 16), true, ['+'], "null", "null"⟩

/-- Block documents write positionally what value trees do, and have words for the values without digits. -/
def block : Form := ⟨some (-4, 16), true, [], ".nan", ".inf"⟩

/-- The quotient rounded to the nearest natural, a half to the even neighbour. -/
def roundDiv (num den : Nat) : Nat :=
  let q := num / den
  let r := num % den
  if 2 * r < den then q else if den < 2 * r then q + 1 else if q % 2 == 0 then q else q + 1

/-- A double with one decimal place, rounded on its exact value. -/
def renderTenths (x : Float) : String :=
  match Binary.ofFloat x with
  | .nan => "NaN"
  | .infinity negative => if negative then "-inf" else "inf"
  | .finite negative m q =>
    let tenths := roundDiv (m * 10 * Nat.pow 2 q.toNat) (Nat.pow 2 (-q).toNat)
    (if negative then "-" else "") ++ toString (tenths / 10) ++ "." ++ toString (tenths % 10)

end AgentTrial.Decimal
