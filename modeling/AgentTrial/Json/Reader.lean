import AgentTrial.Decimal.Reading
import AgentTrial.Document.Datum

/-!
# Reader — the text of a value tree as a datum

The text is read token by token by a machine with a stack of open containers, so that a text that breaks off still
gives the tree read so far, ending in the break.  A number out of range, a text with half a surrogate pair and a
container more than 127 deep are refused only when they are wanted.

* `lex_length`: every token shortens the text.
-/

namespace AgentTrial.Json

/-- White space between tokens. -/
def isSpace (c : Char) : Bool := c = ' ' || c = '\n' || c = '\t' || c = '\r'

/-! ## Texts -/

/-- A piece of a text: a character, or a sixteen-bit code written as an escape. -/
inductive Piece
  | char (c : Char)
  | code (n : Nat)
  deriving Repr, DecidableEq

/-- How a text ends: at its closing quote, or at a break. -/
inductive TextEnd
  | closed (rest : List Char)
  | stopped (cause : Cause)
  deriving Repr, DecidableEq

/-- The value of a hexadecimal digit. -/
def hexValue? (c : Char) : Option Nat :=
  let n := c.toNat
  if 48 ≤ n ∧ n ≤ 57 then some (n - 48)
  else if 97 ≤ n ∧ n ≤ 102 then some (n - 87)
  else if 65 ≤ n ∧ n ≤ 70 then some (n - 55)
  else none

/-- The value of four hexadecimal digits. -/
def hexCode? (a b c d : Char) : Option Nat := do
  let a ← hexValue? a
  let b ← hexValue? b
  let c ← hexValue? c
  let d ← hexValue? d
  return ((a * 16 + b) * 16 + c) * 16 + d

/-- The character that an escape of one letter stands for. -/
def shortEscape? (c : Char) : Option Char :=
  if c = '"' ∨ c = '\\' ∨ c = '/' then some c
  else if c = 'b' then some (Char.ofNat 8)
  else if c = 'f' then some (Char.ofNat 12)
  else if c = 'n' then some '\n'
  else if c = 'r' then some '\r'
  else if c = 't' then some '\t'
  else none

/-- The pieces of a text after its opening quote. -/
def scanText : List Char → List Piece × TextEnd
  | [] => ([], .stopped .cutShort)
  | c :: s =>
    if c = '"' then ([], .closed s)
    else if c = '\\' then
      match s with
      | [] => ([], .stopped .cutShort)
      | e :: s =>
        if e = 'u' then
          match s with
          | h₁ :: h₂ :: h₃ :: h₄ :: s =>
            match hexCode? h₁ h₂ h₃ h₄ with
            | some n => ((Piece.code n) :: (scanText s).1, (scanText s).2)
            | none => ([], .stopped .malformed)
          | _ => ([], .stopped .cutShort)
        else
          match shortEscape? e with
          | some c => ((Piece.char c) :: (scanText s).1, (scanText s).2)
          | none => ([], .stopped .malformed)
    else if c.toNat < 0x20 then ([], .stopped .malformed)
    else ((Piece.char c) :: (scanText s).1, (scanText s).2)

/-- The first half of a surrogate pair. -/
def isHighHalf (n : Nat) : Bool := 0xD800 ≤ n && n ≤ 0xDBFF

/-- The second half of a surrogate pair. -/
def isLowHalf (n : Nat) : Bool := 0xDC00 ≤ n && n ≤ 0xDFFF

/-- The characters of the pieces; `none` if a half stands alone. -/
def joinPieces : List Piece → Option (List Char)
  | [] => some []
  | .char c :: ps => (joinPieces ps).map (c :: ·)
  | [.code n] => if isHighHalf n || isLowHalf n then none else some [Char.ofNat n]
  | .code n :: .char c :: ps =>
    if isHighHalf n || isLowHalf n then none else (joinPieces ps).map (fun cs => Char.ofNat n :: c :: cs)
  | .code n :: .code m :: ps =>
    if isHighHalf n then
      if isLowHalf m then
        (joinPieces ps).map (Char.ofNat (0x10000 + (n - 0xD800) * 0x400 + (m - 0xDC00)) :: ·)
      else none
    else if isLowHalf n then none
    else (joinPieces (.code m :: ps)).map (Char.ofNat n :: ·)

/-- The pieces without a first half at their end, whose second half may still have come. -/
def dropPending (ps : List Piece) : List Piece :=
  match ps.getLast? with
  | some (.code n) => if isHighHalf n then ps.dropLast else ps
  | _ => ps

/-! ## Numbers -/

/-- The largest natural of sixty-four bits. -/
def maxNat64 : Nat := Nat.pow 2 64 - 1

/-- Takes digits into a significand of sixty-four bits; gives the significand, the number of digits taken and the
digits that did not fit. -/
def significand (n : Nat) : List Char → Nat × Nat × List Char
  | [] => (n, 0, [])
  | c :: ds =>
    let m := 10 * n + (c.toNat - 48)
    if m ≤ maxNat64 then
      let (r, taken, left) := significand m ds
      (r, taken + 1, left)
    else (n, 0, c :: ds)

/-- The double of a written number: whole digits that do not fit raise the exponent, fraction digits that do not fit
are left out. -/
def doubleOf (w : Decimal.Written) : Option Float :=
  let (n, _, left) := significand 0 w.whole
  let (n, taken, _) := significand n w.fraction
  let x := Decimal.scaled n ((left.length : Int) - taken + w.exp)
  if w.negative then x.map (-·) else x

/-- The datum of a written number.  Whole numbers of sixty-four bits are integers; negative zero is a double. -/
def numberDatum (w : Decimal.Written) (whole : Bool) : Datum :=
  let n := Decimal.ofDigitChars w.whole
  if whole && !w.negative && n ≤ maxNat64 then .int n
  else if whole && w.negative && 0 < n && n ≤ Nat.pow 2 63 then .int (-n)
  else
    match doubleOf w with
    | some x => .float x
    | none => .refused .null

/-- The cause of a break at the rest of a text. -/
def breakAt : List Char → Cause
  | [] => .cutShort
  | _ :: _ => .malformed

/-- The fraction and the exponent of a number and the rest, or the break inside them.  The flag tells whether the number
is whole so far. -/
def scanExponent (w : Decimal.Written) (whole : Bool) : List Char → Except Cause (Datum × List Char)
  | [] => .ok (numberDatum w whole, [])
  | c :: s =>
    if c = 'e' ∨ c = 'E' then
      let signed := Decimal.spanSign s
      let span := Decimal.spanDigits signed.2
      if span.1.isEmpty then .error (breakAt span.2)
      else
        let e : Int := Decimal.ofDigitChars span.1
        .ok (numberDatum { w with exp := if signed.1 then -e else e } false, span.2)
    else .ok (numberDatum w whole, c :: s)

/-- A number after its sign. -/
def scanNumber (negative : Bool) (s : List Char) : Except Cause (Datum × List Char) :=
  let span := Decimal.spanDigits s
  match span.1 with
  | [] => .error (breakAt s)
  | d :: ds =>
    if d = '0' ∧ ds ≠ [] then .error .malformed
    else
      let w : Decimal.Written := ⟨negative, d :: ds, [], 0⟩
      match span.2 with
      | [] => .ok (numberDatum w true, [])
      | c :: s =>
        if c = '.' then
          let frac := Decimal.spanDigits s
          if frac.1.isEmpty then .error (breakAt frac.2)
          else scanExponent { w with fraction := frac.1 } false frac.2
        else scanExponent w true (c :: s)

/-! ## Tokens -/

/-- A token. -/
inductive Token
  | listOpen
  | listClose
  | recordOpen
  | recordClose
  | comma
  | colon
  | text (d : Datum)
  | scalar (d : Datum)
  deriving Repr

/-- A token and the rest of the text, or the break. -/
inductive Lexed
  | token (t : Token) (rest : List Char)
  | stop (d : Datum)
  deriving Repr

/-- The rest after a word, or the break inside it. -/
def scanWord : List Char → List Char → Except Cause (List Char)
  | [], s => .ok s
  | _ :: _, [] => .error .cutShort
  | a :: w, c :: s => if a = c then scanWord w s else .error .malformed

/-- The token of a word. -/
def lexWord (w : List Char) (d : Datum) (s : List Char) : Lexed :=
  match scanWord w s with
  | .ok rest => .token (.scalar d) rest
  | .error c => .stop (.broken c)

/-- The token of a text after its opening quote. -/
def lexText (s : List Char) : Lexed :=
  match scanText s with
  | (ps, .closed rest) =>
    match joinPieces ps with
    | some cs => .token (.text (.text (.ofList cs))) rest
    | none => .token (.text (.refused .null)) rest
  | (ps, .stopped c) =>
    match joinPieces (dropPending ps) with
    | some _ => .stop (.broken c)
    | none => .stop (.refused (.broken c))

/-- The token of a number. -/
def lexNumber (negative : Bool) (s : List Char) : Lexed :=
  match scanNumber negative s with
  | .ok (d, rest) => .token (.scalar d) rest
  | .error c => .stop (.broken c)

/-- What the machine waits for: a value, possibly the end of an empty list instead; a key, possibly the end of an empty
record instead; the colon after a key; a comma or an end. -/
inductive Due
  | value (closable : Bool)
  | key (closable : Bool)
  | colon
  | next
  deriving Repr, DecidableEq

/-- The mark that a character is. -/
def mark? (c : Char) : Option Token :=
  if c = '[' then some .listOpen
  else if c = ']' then some .listClose
  else if c = '{' then some .recordOpen
  else if c = '}' then some .recordClose
  else if c = ',' then some .comma
  else if c = ':' then some .colon
  else none

/-- The token that starts at a character. -/
def lexFrom (due : Due) (c : Char) (s : List Char) : Lexed :=
  match mark? c with
  | some t => .token t s
  | none =>
    match due with
    | .value _ =>
      if c = '"' then lexText s
      else if c = 'n' then lexWord ['u', 'l', 'l'] .null s
      else if c = 't' then lexWord ['r', 'u', 'e'] (.bool true) s
      else if c = 'f' then lexWord ['a', 'l', 's', 'e'] (.bool false) s
      else if c = '-' then lexNumber true s
      else if c.isDigit then lexNumber false (c :: s)
      else .stop (.broken .malformed)
    | .key _ => if c = '"' then lexText s else .stop (.broken .malformed)
    | _ => .stop (.broken .malformed)

/-- The next token. -/
def lex (due : Due) (s : List Char) : Lexed :=
  match s.dropWhile isSpace with
  | [] => .stop (.broken .cutShort)
  | c :: s => lexFrom due c s

/-! ## The machine -/

/-- An open container: the items or fields so far, the last one first, and the key whose value is due. -/
inductive Frame
  | list (items : List Datum)
  | record (fields : List (Datum × Datum)) (key : Option Datum)
  deriving Repr

/-- The deepest nesting that can be read. -/
def maxDepth : Nat := 127

/-- A container at a depth; one too deep is refused when it is wanted. -/
def atDepth (depth : Nat) (d : Datum) : Datum := if depth ≤ maxDepth then d else .refused d

namespace Frame

/-- The container with one more value. -/
def absorb (d : Datum) : Frame → Frame
  | list items => list (d :: items)
  | record fields (some k) => record ((k, d) :: fields) none
  | record fields none => record fields none

/-- The container as it stands. -/
def close : Frame → Datum
  | list items => .list .fields items.reverse
  | record fields _ => .record fields.reverse

/-- The container with a break at its end. -/
def breakOff (d : Datum) : Frame → Datum
  | list items => .list .fields (d :: items).reverse
  | record fields none => .record ((d, .null) :: fields).reverse
  | record fields (some k) => .record ((k, d) :: fields).reverse

end Frame

/-- The tree read so far, ending in a break inside so many containers. -/
def breakOffAt (d : Datum) : Nat → List Frame → Datum
  | _, [] => d
  | depth, f :: stack => breakOffAt (atDepth depth (f.breakOff d)) (depth - 1) stack

/-- The tree read so far, ending in a break. -/
def breakOff (d : Datum) (stack : List Frame) : Datum := breakOffAt d stack.length stack

/-- What a token leads to: a next state, the whole value, or a break. -/
inductive Step
  | go (due : Due) (stack : List Frame)
  | done (d : Datum)
  | stop
  deriving Repr

/-- A complete value goes into the innermost container, or is the whole value. -/
def complete (d : Datum) : List Frame → Step
  | [] => .done d
  | f :: stack => .go .next (f.absorb d :: stack)

/-- Closes the innermost container. -/
def closeTop : List Frame → Step
  | [] => .stop
  | f :: stack => complete (atDepth (stack.length + 1) f.close) stack

/-- One step of the machine. -/
def step (due : Due) (stack : List Frame) (t : Token) : Step :=
  match due, t, stack with
  | .value _, .scalar d, _ => complete d stack
  | .value _, .text d, _ => complete d stack
  | .value _, .listOpen, _ => .go (.value true) (.list [] :: stack)
  | .value _, .recordOpen, _ => .go (.key true) (.record [] none :: stack)
  | .value true, .listClose, _ => closeTop stack
  | .key _, .text d, .record fields _ :: stack => .go .colon (.record fields (some d) :: stack)
  | .key true, .recordClose, _ => closeTop stack
  | .colon, .colon, _ => .go (.value false) stack
  | .next, .comma, .list _ :: _ => .go (.value false) stack
  | .next, .comma, .record .. :: _ => .go (.key false) stack
  | .next, .listClose, .list _ :: _ => closeTop stack
  | .next, .recordClose, .record .. :: _ => closeTop stack
  | _, _, _ => .stop

theorem scanWord_length {w s rest : List Char} (h : scanWord w s = .ok rest) : rest.length ≤ s.length := by
  fun_induction scanWord w s with
  | case1 s => cases h; exact Nat.le_refl _
  | case2 => cases h
  | case3 w c s ih => exact Nat.le_succ_of_le (ih h)
  | case4 => cases h

theorem scanText_length {s rest : List Char} (h : (scanText s).2 = .closed rest) : rest.length < s.length := by
  fun_induction scanText s <;> simp_all <;> omega

theorem spanDigits_length (s : List Char) :
    (Decimal.spanDigits s).1.length + (Decimal.spanDigits s).2.length = s.length := by
  rw [Decimal.spanDigits, ← List.length_append, List.takeWhile_append_dropWhile]

theorem spanSign_length (s : List Char) : (Decimal.spanSign s).2.length ≤ s.length := by
  unfold Decimal.spanSign
  split <;> simp

theorem scanExponent_length {w : Decimal.Written} {whole : Bool} {s rest : List Char} {d : Datum}
    (h : scanExponent w whole s = .ok (d, rest)) : rest.length ≤ s.length := by
  unfold scanExponent at h
  split at h
  · cases h; exact Nat.le_refl _
  · rename_i c s
    split at h
    · dsimp only at h
      split at h
      · cases h
      · cases h
        have h₁ := spanDigits_length (Decimal.spanSign s).2
        have h₂ := spanSign_length s
        simp only [List.length_cons]
        omega
    · cases h; exact Nat.le_refl _

theorem scanNumber_length {negative : Bool} {s rest : List Char} {d : Datum}
    (h : scanNumber negative s = .ok (d, rest)) : rest.length < s.length := by
  have hs := spanDigits_length s
  unfold scanNumber at h
  dsimp only at h
  split at h
  · cases h
  · rename_i c cs hd
    rw [hd, List.length_cons] at hs
    split at h
    · cases h
    · split at h
      · cases h; simp only [List.length_nil]; omega
      · rename_i e t ht
        rw [ht, List.length_cons] at hs
        split at h
        · split at h
          · cases h
          · have h₁ := scanExponent_length h
            have h₂ := spanDigits_length t
            omega
        · have h₁ := scanExponent_length h
          rw [List.length_cons] at h₁
          omega

theorem lexText_length {s rest : List Char} {t : Token} (h : lexText s = .token t rest) :
    rest.length < s.length := by
  unfold lexText at h
  split at h
  · rename_i ps r hs
    have hr : (scanText s).2 = .closed r := by rw [hs]
    split at h <;> (cases h; exact scanText_length hr)
  · split at h <;> cases h

theorem lexFrom_length {due : Due} {c : Char} {s rest : List Char} {t : Token}
    (h : lexFrom due c s = .token t rest) : rest.length ≤ s.length := by
  have hword : ∀ w d, lexWord w d s = .token t rest → rest.length ≤ s.length := by
    intro w d hw
    unfold lexWord at hw
    split at hw
    · rename_i r hr
      cases hw
      exact scanWord_length hr
    · cases hw
  have hnum : ∀ negative u, lexNumber negative u = .token t rest → rest.length < u.length := by
    intro negative u hw
    unfold lexNumber at hw
    split at hw
    · rename_i d r hr
      cases hw
      exact scanNumber_length hr
    · cases hw
  unfold lexFrom at h
  split at h
  · cases h; exact Nat.le_refl _
  · split at h
    · split at h
      · exact Nat.le_of_lt (lexText_length h)
      · split at h
        · exact hword _ _ h
        · split at h
          · exact hword _ _ h
          · split at h
            · exact hword _ _ h
            · split at h
              · exact Nat.le_of_lt (hnum _ _ h)
              · split at h
                · have := hnum _ _ h
                  rw [List.length_cons] at this
                  omega
                · cases h
    · split at h
      · exact Nat.le_of_lt (lexText_length h)
      · cases h
    · cases h

theorem lex_length {due : Due} {s rest : List Char} {t : Token} (h : lex due s = .token t rest) :
    rest.length < s.length := by
  unfold lex at h
  split at h
  · cases h
  · rename_i c u hu
    have h₁ := lexFrom_length h
    have h₂ : (c :: u).length ≤ s.length := by
      rw [← hu]
      exact (List.dropWhile_sublist _).length_le
    rw [List.length_cons] at h₂
    omega

/-- The value that the machine reads from a state, and the rest of the text unless the value is broken. -/
def run (due : Due) (stack : List Frame) (s : List Char) : Datum × Option (List Char) :=
  match _h : lex due s with
  | .stop d => (breakOff d stack, none)
  | .token t rest =>
    match step due stack t with
    | .go due stack => run due stack rest
    | .done d => (d, some rest)
    | .stop => (breakOff (.broken .malformed) stack, none)
termination_by s.length
decreasing_by exact lex_length _h

/-- The first value of a text, and the rest unless it is broken. -/
def readFirst (s : List Char) : Datum × Option (List Char) := run (.value false) [] s

end AgentTrial.Json
