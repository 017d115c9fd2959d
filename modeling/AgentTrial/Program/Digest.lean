/-!
# Digest — SHA-256 of a text

The message is padded with one bit, zeros and its length to blocks of sixty-four bytes; each block is expanded to
sixty-four words and mixed into eight words of state.
-/

namespace AgentTrial.Digest

/-- The constants of the rounds. -/
def roundConstants : List UInt32 :=
  [0x428a2f98, 0x71374491, 0xb5c0fbcf, 0xe9b5dba5, 0x3956c25b, 0x59f111f1, 0x923f82a4, 0xab1c5ed5,
   0xd807aa98, 0x12835b01, 0x243185be, 0x550c7dc3, 0x72be5d74, 0x80deb1fe, 0x9bdc06a7, 0xc19bf174,
   0xe49b69c1, 0xefbe4786, 0x0fc19dc6, 0x240ca1cc, 0x2de92c6f, 0x4a7484aa, 0x5cb0a9dc, 0x76f988da,
   0x983e5152, 0xa831c66d, 0xb00327c8, 0xbf597fc7, 0xc6e00bf3, 0xd5a79147, 0x06ca6351, 0x14292967,
   0x27b70a85, 0x2e1b2138, 0x4d2c6dfc, 0x53380d13, 0x650a7354, 0x766a0abb, 0x81c2c92e, 0x92722c85,
   0xa2bfe8a1, 0xa81a664b, 0xc24b8b70, 0xc76c51a3, 0xd192e819, 0xd6990624, 0xf40e3585, 0x106aa070,
   0x19a4c116, 0x1e376c08, 0x2748774c, 0x34b0bcb5, 0x391c0cb3, 0x4ed8aa4a, 0x5b9cca4f, 0x682e6ff3,
   0x748f82ee, 0x78a5636f, 0x84c87814, 0x8cc70208, 0x90befffa, 0xa4506ceb, 0xbef9a3f7, 0xc67178f2]

/-- The eight words of state. -/
structure Words where
  a : UInt32
  b : UInt32
  c : UInt32
  d : UInt32
  e : UInt32
  f : UInt32
  g : UInt32
  h : UInt32
  deriving Repr, DecidableEq

/-- The state before the first block. -/
def Words.start : Words :=
  ⟨0x6a09e667, 0xbb67ae85, 0x3c6ef372, 0xa54ff53a, 0x510e527f, 0x9b05688c, 0x1f83d9ab, 0x5be0cd19⟩

/-- A word turned right. -/
def turn (x : UInt32) (n : UInt32) : UInt32 := (x >>> n) ||| (x <<< (32 - n))

/-- The state after one round. -/
def Words.round (w : Words) (k x : UInt32) : Words :=
  let s₁ := turn w.e 6 ^^^ turn w.e 11 ^^^ turn w.e 25
  let choice := (w.e &&& w.f) ^^^ ((~~~ w.e) &&& w.g)
  let t₁ := w.h + s₁ + choice + k + x
  let s₀ := turn w.a 2 ^^^ turn w.a 13 ^^^ turn w.a 22
  let majority := (w.a &&& w.b) ^^^ (w.a &&& w.c) ^^^ (w.b &&& w.c)
  ⟨t₁ + s₀ + majority, w.a, w.b, w.c, w.d + t₁, w.e, w.f, w.g⟩

/-- The sum of two states, word by word. -/
def Words.add (v w : Words) : Words :=
  ⟨v.a + w.a, v.b + w.b, v.c + w.c, v.d + w.d, v.e + w.e, v.f + w.f, v.g + w.g, v.h + w.h⟩

/-- The words of a block with `n` more made from them.  The newest word comes first. -/
def expand : Nat → List UInt32 → List UInt32
  | 0, w => w
  | n + 1, w =>
    let x := w.getD 14 0
    let y := w.getD 1 0
    let s₀ := turn x 7 ^^^ turn x 18 ^^^ (x >>> 3)
    let s₁ := turn y 17 ^^^ turn y 19 ^^^ (y >>> 10)
    expand n ((w.getD 15 0 + s₀ + w.getD 6 0 + s₁) :: w)

/-- The state after a block. -/
def Words.block (v : Words) (block : List UInt32) : Words :=
  let w := (expand 48 block.reverse).reverse
  v.add ((roundConstants.zip w).foldl (fun v (k, x) => v.round k x) v)

/-- The big-endian bytes of a number. -/
def bigEndian : Nat → Nat → List UInt8
  | 0, _ => []
  | k + 1, n => bigEndian k (n / 256) ++ [UInt8.ofNat n]

/-- The message with its padding. -/
def pad (bytes : List UInt8) : List UInt8 :=
  let n := bytes.length
  bytes ++ 0x80 :: List.replicate ((119 - n % 64) % 64) 0 ++ bigEndian 8 (8 * n)

/-- Four bytes at a time as big-endian words. -/
def toWords : List UInt8 → List UInt32
  | a :: b :: c :: d :: s =>
    ((a.toUInt32 <<< 24) ||| (b.toUInt32 <<< 16) ||| (c.toUInt32 <<< 8) ||| d.toUInt32) :: toWords s
  | _ => []

/-- The state after all blocks; `n` bounds their number. -/
def blocks : Nat → List UInt32 → Words → Words
  | 0, _, v => v
  | _, [], v => v
  | n + 1, ws, v => blocks n (ws.drop 16) (v.block (ws.take 16))

/-- The eight lower-case hexadecimal digits of a word. -/
def hexWord (x : UInt32) : List Char :=
  let digit (n : Nat) : Char := if n < 10 then Char.ofNat (48 + n) else Char.ofNat (87 + n)
  [28, 24, 20, 16, 12, 8, 4, 0].map fun shift => digit (x.toNat / Nat.pow 2 shift % 16)

/-- The digest of bytes. -/
def ofBytes (bytes : List UInt8) : List Char :=
  let ws := toWords (pad bytes)
  let v := blocks ws.length ws .start
  [v.a, v.b, v.c, v.d, v.e, v.f, v.g, v.h].flatMap hexWord

/-- The digest of a text. -/
def ofText (s : String) : String := .ofList (ofBytes s.toUTF8.data.toList)

end AgentTrial.Digest
