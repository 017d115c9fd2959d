import AgentTrial.Calendar.Stamp

/-!
# Identifier — names that nothing had before

A submission is named after the moment it is made and a random number, a run after random bytes alone.

* `length_hexDigits`: a number has exactly the digits it is given room for.
-/

namespace AgentTrial.Identifier

/-- The hexadecimal digit of a number below 16. -/
def hexDigit (n : Nat) : Char := if n < 10 then Char.ofNat (48 + n) else Char.ofNat (87 + n)

/-- The last hexadecimal digits of a number, so many of them. -/
def hexDigits : Nat → Nat → List Char
  | 0, _ => []
  | width + 1, n => hexDigits width (n / 16) ++ [hexDigit (n % 16)]

theorem length_hexDigits (width n : Nat) : (hexDigits width n).length = width := by
  induction width generalizing n with
  | zero => rfl
  | succ width ih => simp [hexDigits, ih]

/-- The name of a submission: the stamp of its moment, a dash and eight hexadecimal digits. -/
def ofStamp (stamp : String) (tag : Nat) : String := stamp ++ "-" ++ .ofList (hexDigits 8 tag)

/-- The name of a run: 32 hexadecimal digits in five groups, with the marks of a random identifier in the third and the
fourth. -/
def ofBytes (bytes : List UInt8) : String :=
  let digits (bs : List UInt8) : List Char := bs.flatMap fun b => hexDigits 2 b.toNat
  let marked := bytes.mapIdx fun i b => if i = 6 then b % 16 + 64 else if i = 8 then b % 64 + 128 else b
  "-".intercalate <| [marked.take 4, (marked.drop 4).take 2, (marked.drop 6).take 2, (marked.drop 8).take 2,
    (marked.drop 10).take 6].map fun bs => String.ofList (digits bs)

end AgentTrial.Identifier
