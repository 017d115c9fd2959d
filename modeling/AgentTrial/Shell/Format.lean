import AgentTrial.Shell.Calculation

/-!
# Format — texts with escapes and formats

A backslash stands before a letter for a control character and before octal digits for a byte.  A format holds text
and directives, each of which shows an argument; it is used again until no argument is left.
-/

namespace AgentTrial.Shell

/-- What a dialect of formats knows. -/
structure FormatDialect where
  /-- Escapes for quotes, for the escape character and for bytes in hexadecimal. -/
  manyEscapes : Bool
  /-- Is a text that is no number shown in quotes? -/
  quotesText : Bool

/-- The dialect of the shell's own commands. -/
def FormatDialect.shell : FormatDialect := ⟨false, false⟩

/-- The dialect of the commands in files. -/
def FormatDialect.tool : FormatDialect := ⟨true, true⟩

/-- The bytes of a character. -/
def bytesOf (c : Char) : List UInt8 := c.toString.toUTF8.toList

/-- Is it an octal digit? -/
def isOctal (c : Char) : Bool := '0' ≤ c && c ≤ '7'

/-- The control character of a letter. -/
def control? : Char → Option UInt8
  | 'a' => some 7
  | 'b' => some 8
  | 'f' => some 12
  | 'n' => some 10
  | 'r' => some 13
  | 't' => some 9
  | 'v' => some 11
  | '\\' => some 92
  | _ => none

/-- The byte of octal digits. -/
def octalByte (digits : List Char) : UInt8 := .ofNat (digits.foldl (fun n c => n * 8 + digitValue c) 0)

/-- What stands after a backslash: its bytes and the rest. -/
def escaped (d : FormatDialect) (s : List Char) : List UInt8 × List Char :=
  match s with
  | [] => ([92], [])
  | c :: rest =>
    match control? c with
    | some b => ([b], rest)
    | none =>
      if isOctal c then
        let digits := ((c :: rest).take 3).takeWhile isOctal
        ([octalByte digits], (c :: rest).drop digits.length)
      else if d.manyEscapes && (c = '"' || c = '\'') then (bytesOf c, rest)
      else if d.manyEscapes && c = 'e' then ([27], rest)
      else if d.manyEscapes && c = 'x' then
        let digits := (rest.take 2).takeWhile fun h => h.isDigit || ('a' ≤ h.toLower && h.toLower ≤ 'f')
        (if digits.isEmpty then [92, 120] else [.ofNat (digits.foldl (fun n c => n * 16 + digitValue c.toLower) 0)],
          rest.drop digits.length)
      else (92 :: bytesOf c, rest)

/-- The bytes of a text with escapes, in which octal digits follow a zero; the mark that stops all output is told
apart. -/
def escapedText (d : FormatDialect) : Nat → List Char → List UInt8 × Bool
  | 0, _ => ([], false)
  | _ + 1, [] => ([], false)
  | _ + 1, '\\' :: 'c' :: _ => ([], true)
  | fuel + 1, '\\' :: '0' :: s =>
    let digits := (s.take 3).takeWhile isOctal
    let (out, stop) := escapedText d fuel (s.drop digits.length)
    (octalByte digits :: out, stop)
  | fuel + 1, '\\' :: s =>
    let (bytes, rest) := escaped d s
    let (out, stop) := escapedText d fuel rest
    (bytes ++ out, stop)
  | fuel + 1, c :: s =>
    let (out, stop) := escapedText d fuel s
    (bytesOf c ++ out, stop)

/-- What is shown of words in a line: with escapes, unless the mark that stops all output ends it. -/
def echoEscaped (d : FormatDialect) (newline : Bool) (words : List String) : ByteArray :=
  let text := (" ".intercalate words).toList
  let (out, stop) := escapedText d (text.length + 1) text
  ⟨(if newline && !stop then out ++ [10] else out).toArray⟩

/-- What is shown of words in a line. -/
def echoPlain (newline : Bool) (words : List String) : ByteArray :=
  (" ".intercalate words ++ if newline then "\n" else "").toUTF8

/-! ## Directives -/

/-- A width or a precision. -/
inductive Measure
  | fixed (n : Nat)
  /-- The next argument. -/
  | given
  deriving Repr, DecidableEq

/-- A part of a format. -/
inductive Directive
  | bytes (bs : List UInt8)
  | stop
  | convert (flags : List Char) (width precision : Option Measure) (kind : Char)
  | incomplete
  deriving Repr, DecidableEq

/-- A width or a precision at the start of a text. -/
def measure? : List Char → Option Measure × List Char
  | '*' :: s => (some .given, s)
  | s =>
    let digits := s.takeWhile Char.isDigit
    (if digits.isEmpty then none else some (.fixed (digits.foldl (fun n c => n * 10 + digitValue c) 0)),
      s.drop digits.length)

/-- The directives of a format. -/
def directives (d : FormatDialect) : Nat → List Char → List Directive
  | 0, _ => []
  | _ + 1, [] => []
  | fuel + 1, '%' :: '%' :: s => .bytes [37] :: directives d fuel s
  | fuel + 1, '%' :: s =>
    let flags := s.takeWhile ['-', '+', ' ', '#', '0'].contains
    let (width, s) := measure? (s.drop flags.length)
    let (precision, s) := match s with
      | '.' :: s =>
        let (p, s) := measure? s
        (some (p.getD (.fixed 0)), s)
      | s => (none, s)
    match s with
    | kind :: s =>
      if ['s', 'b', 'c', 'd', 'i', 'u', 'o', 'x', 'X'].contains kind then
        .convert flags width precision kind :: directives d fuel s
      else [.incomplete]
    | [] => [.incomplete]
  | fuel + 1, '\\' :: 'c' :: s =>
    if d.manyEscapes then [.stop] else .bytes [92, 99] :: directives d fuel s
  | fuel + 1, '\\' :: s =>
    let (bs, s) := escaped d s
    .bytes bs :: directives d fuel s
  | fuel + 1, c :: s => .bytes (bytesOf c) :: directives d fuel s

/-- A use of a format: what is shown, the arguments left and the complaints. -/
structure Formatting where
  out : List UInt8
  args : List String
  complaints : List String
  stopped : Bool

namespace Formatting

/-- Takes an argument. -/
def argument (f : Formatting) : Option String × Formatting := (f.args.head?, { f with args := f.args.tail })

/-- Takes a number; what is none counts as 0 and gives a complaint. -/
def number (d : FormatDialect) (f : Formatting) : Int × Formatting :=
  match f.argument with
  | (none, f) => (0, f)
  | (some text, f) =>
    match text.toList with
    | '\'' :: c :: _ => (c.toNat, f)
    | '"' :: c :: _ => (c.toNat, f)
    | s =>
      match signedNumber? s with
      | some n => (n, f)
      | none =>
        let start := (List.range s.length).reverse.findSome? fun n => signedNumber? (s.take n)
        let shown := if d.quotesText then "'" ++ text ++ "'" else text
        let reason :=
          if start.isSome then if d.quotesText then ": value not completely converted" else ": not completely converted"
          else if d.quotesText then ": expected a numeric value" else ": expected numeric value"
        if text.isEmpty && !d.quotesText then (0, f)
        else (start.getD 0, { f with complaints := f.complaints ++ [shown ++ reason] })

/-- Takes a width or a precision. -/
def measure (d : FormatDialect) (f : Formatting) : Option Measure → Option Int × Formatting
  | none => (none, f)
  | some (.fixed n) => (some n, f)
  | some .given =>
    let (n, f) := f.number d
    (some n, f)

end Formatting

/-- Bytes in a field of some width. -/
def inWidth (flags : List Char) (width : Option Int) (bs : List UInt8) : List UInt8 :=
  match width with
  | none => bs
  | some w =>
    let pad := List.replicate (w.natAbs - bs.length) 32
    if flags.contains '-' || w < 0 then bs ++ pad else pad ++ bs

/-- The digits of a number in the base of a directive. -/
def numberDigits (kind : Char) (n : Nat) : String :=
  .ofList <|
    match kind with
    | 'o' => Nat.toDigits 8 n
    | 'x' => Nat.toDigits 16 n
    | 'X' => (Nat.toDigits 16 n).map Char.toUpper
    | _ => Nat.toDigits 10 n

/-- A number as a directive shows it. -/
def shownNumber (flags : List Char) (width precision : Option Int) (kind : Char) (n : Int) : List UInt8 :=
  let isSigned := kind = 'd' || kind = 'i'
  let size := if isSigned then n.natAbs else (n % Nat.pow 2 64).toNat
  let sign :=
    if isSigned && n < 0 then "-"
    else if isSigned && flags.contains '+' then "+"
    else if isSigned && flags.contains ' ' then " "
    else ""
  let mark :=
    if flags.contains '#' && size != 0 then
      match kind with
      | 'o' => "0"
      | 'x' => "0x"
      | 'X' => "0X"
      | _ => ""
    else ""
  let digits := numberDigits kind size
  let digits := match precision with
    | some p => if p = 0 && size = 0 then "" else String.ofList (List.replicate (p.toNat - digits.length) '0') ++ digits
    | none =>
      if flags.contains '0' && !flags.contains '-' then
        let w := (width.getD 0).toNat - sign.length - mark.length
        String.ofList (List.replicate (w - digits.length) '0') ++ digits
      else digits
  inWidth flags width (sign ++ mark ++ digits).toUTF8.toList

/-- Follows a directive. -/
def Directive.apply (d : FormatDialect) (f : Formatting) : Directive → Formatting
  | .bytes bs => { f with out := f.out ++ bs }
  | .stop => { f with stopped := true }
  | .incomplete => { f with stopped := true, complaints := f.complaints ++ ["%: invalid directive"] }
  | .convert flags width precision kind =>
    let (w, f) := f.measure d width
    let (p, f) := f.measure d precision
    match kind with
    | 's' =>
      let (a, f) := f.argument
      let bs := (a.getD "").toUTF8.toList
      let bs := match p with
        | some p => if p < 0 then bs else bs.take p.toNat
        | none => bs
      { f with out := f.out ++ inWidth flags w bs }
    | 'c' =>
      let (a, f) := f.argument
      { f with out := f.out ++ inWidth flags w ((a.getD "").toUTF8.toList.take 1) }
    | 'b' =>
      let (a, f) := f.argument
      let text := (a.getD "").toList
      let (bs, ends) := escapedText d (text.length + 1) text
      { f with out := f.out ++ inWidth flags w bs, stopped := ends }
    | _ =>
      let (n, f) := f.number d
      { f with out := f.out ++ shownNumber flags w p kind n }

/-- Follows directives until one of them stops the output. -/
def applyAll (d : FormatDialect) : List Directive → Formatting → Formatting
  | [], f => f
  | r :: rs, f => if f.stopped then f else applyAll d rs (r.apply d f)

/-- Uses a format until no argument is left, or none is taken. -/
def applyAgain (d : FormatDialect) (rs : List Directive) : Nat → Formatting → Formatting
  | 0, f => f
  | fuel + 1, f =>
    let g := applyAll d rs f
    if g.stopped || g.args.isEmpty || g.args.length = f.args.length then g else applyAgain d rs fuel g

/-- What a format shows of arguments, and the complaints about them. -/
def formatted (d : FormatDialect) (format : String) (args : List String) : ByteArray × List String :=
  let rs := directives d (format.length + 1) format.toList
  let f := applyAgain d rs (args.length + 1) ⟨[], args, [], false⟩
  (⟨f.out.toArray⟩, f.complaints)

end AgentTrial.Shell
