/-!
# Binary — a double as a sign, a mantissa and a power of two

A finite double is `± mant · 2 ^ exp` with `mant < 2 ^ 53`.  All decimal text is worked out from these naturals.
-/

namespace AgentTrial.Decimal

/-- The value a double stands for. -/
inductive Binary
  | nan
  | infinity (negative : Bool)
  | finite (negative : Bool) (mant : Nat) (exp : Int)
  deriving Repr, DecidableEq

/-- The parts of the sixty-four bits of a double. -/
def Binary.ofBits (bits : Nat) : Binary :=
  let negative : Bool := bits / Nat.pow 2 63 % 2 == 1
  let biased : Nat := bits / Nat.pow 2 52 % Nat.pow 2 11
  let fraction : Nat := bits % Nat.pow 2 52
  if biased == 2047 then
    if fraction == 0 then .infinity negative else .nan
  else if biased == 0 then .finite negative fraction (-1074)
  else .finite negative (Nat.pow 2 52 + fraction) ((biased : Int) - 1075)

/-- The value of a double. -/
def Binary.ofFloat (x : Float) : Binary := .ofBits x.toBits.toNat

/-- Is the double neither an infinity nor no number? -/
def isFinite (x : Float) : Bool :=
  match Binary.ofFloat x with
  | .finite .. => true
  | _ => false

end AgentTrial.Decimal
