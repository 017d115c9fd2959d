import AgentTrial.Decimal.Reading
import AgentTrial.Document.Datum
import AgentTrial.Json.Reader

/-!
# Scalar — keys and values without parts

Quoted texts are read character by character, on one line or on several.  Everything else is a run of letters, digits
and a few marks, which is a boolean, a number, a date or nothing at all.
-/

namespace AgentTrial.Toml

/-- The end of a line. -/
def newline? : List Char → Option (List Char)
  | '\n' :: s => some s
  | '\r' :: '\n' :: s => some s
  | _ => none

/-- A space or a tab. -/
def isGap (c : Char) : Bool := c = ' ' || c = '\t'

/-- Drops spaces and tabs. -/
def skipGaps (s : List Char) : List Char := s.dropWhile isGap

/-- A character that a line may hold: no control character but the tab. -/
def isLineChar (c : Char) : Bool := c = '\t' || (0x20 ≤ c.toNat && c.toNat ≠ 0x7F)

/-- A character of a bare key. -/
def isBareChar (c : Char) : Bool := c.isAlphanum || c = '-' || c = '_'

/-- The character of hexadecimal digits. -/
def codePoint? (ds : List Char) : Option Char := do
  let n ← ds.foldlM (fun n c => return 16 * n + (← Json.hexValue? c)) 0
  if h : n.isValidChar then return Char.ofNatAux n h else none

/-- The character after a backslash, and the rest. -/
def escape? : List Char → Option (Char × List Char)
  | 'b' :: s => some ('\x08', s)
  | 't' :: s => some ('\t', s)
  | 'n' :: s => some ('\n', s)
  | 'f' :: s => some ('\x0c', s)
  | 'r' :: s => some ('\r', s)
  | '"' :: s => some ('"', s)
  | '\\' :: s => some ('\\', s)
  | 'u' :: s => if (s.take 4).length = 4 then return (← codePoint? (s.take 4), s.drop 4) else none
  | 'U' :: s => if (s.take 8).length = 8 then return (← codePoint? (s.take 8), s.drop 8) else none
  | _ => none

/-- Drops blanks over several lines. -/
def skipLines : List Char → List Char
  | '\n' :: s => skipLines s
  | '\r' :: '\n' :: s => skipLines s
  | ' ' :: s => skipLines s
  | '\t' :: s => skipLines s
  | s => s

/-- The rest of a text in double quotes on one line; the characters so far are in reverse. -/
def basicLine : Nat → List Char → List Char → Option (String × List Char)
  | 0, _, _ => none
  | _ + 1, out, '"' :: s => some (.ofList out.reverse, s)
  | fuel + 1, out, '\\' :: s => do
    let (c, s) ← escape? s
    basicLine fuel (c :: out) s
  | fuel + 1, out, c :: s => if isLineChar c then basicLine fuel (c :: out) s else none
  | _ + 1, _, [] => none

/-- The rest of a text in single quotes on one line. -/
def literalLine (s : List Char) : Option (String × List Char) :=
  let body := s.takeWhile fun c => c ≠ '\'' && isLineChar c
  match s.drop body.length with
  | '\'' :: rest => some (.ofList body, rest)
  | _ => none

/-- The end of a text on several lines: three quotes, with up to two of the text before them. -/
def closing? (quote : Char) (s : List Char) : Option (List Char × List Char) :=
  let n := min 5 (s.takeWhile (· = quote)).length
  if 3 ≤ n then some (List.replicate (n - 3) quote, s.drop n) else none

/-- The rest of a text in three double quotes. -/
def basicLines : Nat → List Char → List Char → Option (String × List Char)
  | 0, _, _ => none
  | fuel + 1, out, s =>
    match closing? '"' s with
    | some (quotes, rest) => some (.ofList (quotes ++ out).reverse, rest)
    | none =>
      match newline? s, s with
      | some s, _ => basicLines fuel ('\n' :: out) s
      | none, '\\' :: s =>
        match newline? (skipGaps s) with
        | some rest => basicLines fuel out (skipLines rest)
        | none => do
          let (c, s) ← escape? s
          basicLines fuel (c :: out) s
      | none, c :: s => if isLineChar c then basicLines fuel (c :: out) s else none
      | none, [] => none

/-- The rest of a text in three single quotes. -/
def literalLines : Nat → List Char → List Char → Option (String × List Char)
  | 0, _, _ => none
  | fuel + 1, out, s =>
    match closing? '\'' s with
    | some (quotes, rest) => some (.ofList (quotes ++ out).reverse, rest)
    | none =>
      match newline? s, s with
      | some s, _ => literalLines fuel ('\n' :: out) s
      | none, c :: s => if isLineChar c then literalLines fuel (c :: out) s else none
      | none, [] => none

/-- A text in quotes.  A line that ends right after three opening quotes does not belong to the text. -/
def quoted? (s : List Char) : Option (String × List Char) :=
  let fuel := s.length + 1
  match s with
  | '"' :: '"' :: '"' :: s => basicLines fuel [] ((newline? s).getD s)
  | '"' :: s => basicLine fuel [] s
  | '\'' :: '\'' :: '\'' :: s => literalLines fuel [] ((newline? s).getD s)
  | '\'' :: s => literalLine s
  | _ => none

/-- One part of a key. -/
def keyPart? (s : List Char) : Option (String × List Char) :=
  match s with
  | '"' :: s => basicLine (s.length + 1) [] s
  | '\'' :: s => literalLine s
  | s =>
    let bare := s.takeWhile isBareChar
    if bare.isEmpty then none else some (.ofList bare, s.drop bare.length)

/-- The longest key and the deepest value. -/
def maxDepth : Nat := 79

/-- A key: parts with points between them. -/
def key? : Nat → List Char → Option (List String × List Char)
  | 0, _ => none
  | fuel + 1, s => do
    let (part, s) ← keyPart? (skipGaps s)
    match skipGaps s with
    | '.' :: s => do
      let (parts, s) ← key? fuel s
      return (part :: parts, s)
    | s => return ([part], s)

/-! ## Numbers -/

/-- Are these digits of a base, each underscore between two of them? -/
def grouped (isDigit : Char → Bool) : List Char → Bool
  | [] => false
  | [c] => isDigit c
  | c :: '_' :: s => isDigit c && grouped isDigit s
  | c :: s => isDigit c && grouped isDigit s

/-- The natural number of digits in a base; underscores are passed over. -/
def valueIn (base : Nat) (ds : List Char) : Nat :=
  (ds.filter (· ≠ '_')).foldl (fun n c => base * n + (Json.hexValue? c).getD 0) 0

/-- A whole number, where the sign and the bounds of sixty-four bits are looked at by the caller. -/
def natural? : List Char → Option Nat
  | '0' :: 'x' :: s => if grouped (fun c => (Json.hexValue? c).isSome) s then some (valueIn 16 s) else none
  | '0' :: 'o' :: s => if grouped (fun c => '0' ≤ c && c ≤ '7') s then some (valueIn 8 s) else none
  | '0' :: 'b' :: s => if grouped (fun c => c = '0' || c = '1') s then some (valueIn 2 s) else none
  | _ => none

/-- Decimal digits without a zero in front. -/
def decimal? (s : List Char) : Option Nat :=
  if grouped Char.isDigit s && (s.length = 1 || s.head? ≠ some '0') then some (valueIn 10 s) else none

/-- A whole number of sixty-four bits. -/
def integer? (s : List Char) : Option Int :=
  let fit (n : Int) : Option Int := if -(Nat.pow 2 63 : Int) ≤ n ∧ n < Nat.pow 2 63 then some n else none
  match s with
  | '+' :: s => (decimal? s).bind fun n => fit n
  | '-' :: s => (decimal? s).bind fun n => fit (-(n : Int))
  | s => ((natural? s).or (decimal? s)).bind fun n => fit n

/-- The name of a number without digits. -/
def isSpecial (s : List Char) : Bool := s = "inf".toList || s = "nan".toList

/-- A number with a fraction or an exponent. -/
def float? (s : List Char) : Option Float :=
  let (negative, body) := Decimal.spanSign s
  if isSpecial body then
    let x : Float := if body = "inf".toList then 1 / 0 else 0 / 0
    some (if negative then -x else x)
  else
    let whole := body.takeWhile fun c => c.isDigit || c = '_'
    let tail := body.drop whole.length
    let isExp (c : Char) : Bool := c = 'e' || c = 'E'
    let fraction := tail.takeWhile fun c => !isExp c
    let exp := tail.drop fraction.length
    let fractionOk := match fraction with
      | [] => !exp.isEmpty
      | '.' :: ds => grouped Char.isDigit ds
      | _ => false
    let expOk := match exp with
      | [] => true
      | _ :: ds => grouped Char.isDigit (Decimal.spanSign ds).2
    if (decimal? whole).isSome && fractionOk && expOk then do
      let w ← Decimal.Written.ofChars? (s.filter (· ≠ '_'))
      let x := w.toFloat
      if x == 1 / 0 then none else return x
    else none

/-! ## Dates -/

/-- A number of exactly so many digits, and the rest. -/
def digits? (n : Nat) (s : List Char) : Option (Nat × List Char) :=
  let ds := s.take n
  if ds.length = n && ds.all Char.isDigit then some (Decimal.ofDigitChars ds, s.drop n) else none

/-- Drops a character that has to be there. -/
def mark? (c : Char) : List Char → Option (List Char)
  | d :: s => if d = c then some s else none
  | [] => none

/-- The days of a month. -/
def daysIn (year month : Nat) : Nat :=
  if month = 2 then if year % 4 = 0 && (year % 100 ≠ 0 || year % 400 = 0) then 29 else 28
  else if month = 4 || month = 6 || month = 9 || month = 11 then 30
  else 31

/-- Drops a date. -/
def date? (s : List Char) : Option (List Char) := do
  let (year, s) ← digits? 4 s
  let (month, s) ← digits? 2 (← mark? '-' s)
  let (day, s) ← digits? 2 (← mark? '-' s)
  if 1 ≤ month ∧ month ≤ 12 ∧ 1 ≤ day ∧ day ≤ daysIn year month then some s else none

/-- Drops a time of day. -/
def time? (s : List Char) : Option (List Char) := do
  let (hour, s) ← digits? 2 s
  let (minute, s) ← digits? 2 (← mark? ':' s)
  let (second, s) ← digits? 2 (← mark? ':' s)
  if 24 ≤ hour ∨ 60 ≤ minute ∨ 61 ≤ second then none
  else
    match s with
    | '.' :: s =>
      let ds := s.takeWhile Char.isDigit
      if ds.isEmpty then none else some (s.drop ds.length)
    | s => some s

/-- Is the rest of a date and time an offset or nothing? -/
def isOffset : List Char → Bool
  | [] => true
  | ['Z'] => true
  | ['z'] => true
  | c :: s =>
    (c = '+' || c = '-') && ((do
      let (hour, s) ← digits? 2 s
      let (minute, s) ← digits? 2 (← mark? ':' s)
      return hour < 24 && minute < 60 && s.isEmpty : Option Bool).getD false)

/-- Is this a date, a time of day, or both with a `T` between them? -/
def isMoment (s : List Char) : Bool :=
  match date? s with
  | some [] => true
  | some (c :: s) => (c = 'T' || c = 't') && (time? s).any isOffset
  | none => time? s = some []

/-- A moment as a document: a record that nothing wants. -/
def moment (s : List Char) : Datum := .record [(.text "$date", .text (.ofList s))]

/-- A character of a value without quotes. -/
def isTokenChar (c : Char) : Bool := isBareChar c || c = '+' || c = '.' || c = ':'

/-- The value of a run of characters. -/
def token? (s : List Char) : Option Datum :=
  if s = "true".toList then some (.bool true)
  else if s = "false".toList then some (.bool false)
  else if isMoment s then some (moment s)
  else ((integer? s).map Datum.int).or ((float? s).map Datum.float)

/-- A value without parts, and the rest.  A date may have its time of day after a space. -/
def scalar? (s : List Char) : Option (Datum × List Char) :=
  match quoted? s with
  | some (text, rest) => some (.text text, rest)
  | none =>
    let token := s.takeWhile isTokenChar
    let rest := s.drop token.length
    match date? token, rest with
    | some [], ' ' :: d :: more =>
      if d.isDigit then
        let time := (d :: more).takeWhile isTokenChar
        let both := token ++ 'T' :: time
        if isMoment both then some (moment both, (d :: more).drop time.length) else none
      else some (moment token, rest)
    | _, _ => (token? token).map (·, rest)

end AgentTrial.Toml
