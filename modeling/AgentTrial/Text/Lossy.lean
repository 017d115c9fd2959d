/-!
# Lossy — bytes as text

Bytes that are no UTF-8 still have a text: each longest start of a character that breaks off, and each byte that
starts none, becomes one replacement character.
-/

namespace AgentTrial.Lossy

/-- The replacement character. -/
def replacement : Char := '\uFFFD'

/-- How a character goes on after its first byte: the bounds of the second byte and the number of bytes after it. -/
def lead (b : Nat) : Option (Nat × Nat × Nat) :=
  if 0xC2 ≤ b ∧ b ≤ 0xDF then some (0x80, 0xBF, 0)
  else if b = 0xE0 then some (0xA0, 0xBF, 1)
  else if b = 0xED then some (0x80, 0x9F, 1)
  else if 0xE1 ≤ b ∧ b ≤ 0xEF then some (0x80, 0xBF, 1)
  else if b = 0xF0 then some (0x90, 0xBF, 2)
  else if 0xF1 ≤ b ∧ b ≤ 0xF3 then some (0x80, 0xBF, 2)
  else if b = 0xF4 then some (0x80, 0x8F, 2)
  else none

/-- What is being read. -/
inductive Reading
  | between
  /-- In a character: its bits so far, the bounds of the next byte and the number of bytes after that. -/
  | inside (bits low high rest : Nat)

/-- Reads a byte that starts something. -/
def start (out : List Char) (b : Nat) : List Char × Reading :=
  if b < 0x80 then (Char.ofNat b :: out, .between)
  else
    match lead b with
    | none => (replacement :: out, .between)
    | some (low, high, rest) => (out, .inside (b % Nat.pow 2 (5 - rest)) low high rest)

/-- Reads a byte; the characters so far are in reverse. -/
def step : List Char × Reading → UInt8 → List Char × Reading
  | (out, .between), b => start out b.toNat
  | (out, .inside bits low high rest), b =>
    let b := b.toNat
    if low ≤ b ∧ b ≤ high then
      let bits := bits * 64 + b % 64
      match rest with
      | 0 => (Char.ofNat bits :: out, .between)
      | rest + 1 => (out, .inside bits 0x80 0xBF rest)
    else start (replacement :: out) b

/-- The text of bytes. -/
def decode (data : ByteArray) : String :=
  match data.toList.foldl step ([], .between) with
  | (out, .between) => .ofList out.reverse
  | (out, .inside ..) => .ofList (replacement :: out).reverse

end AgentTrial.Lossy
