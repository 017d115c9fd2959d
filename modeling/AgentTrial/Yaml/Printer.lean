import AgentTrial.Decimal.Form
import AgentTrial.Document.Plain
import AgentTrial.Json.Printer
import AgentTrial.Yaml.Cursor

/-!
# Printer — value trees as block documents

Records and lists are written in block style, empty ones as `{}` and `[]`.  A text is written without quotes when that
cannot be mistaken for anything else, else in single quotes, in double quotes when it has characters that need an
escape, and as whole lines when it has line feeds.  A list below a key is not indented.  A key that is long or has more
than one line gets marks of its own.
-/

namespace AgentTrial.Yaml

/-! ## What a text looks like -/

/-- A character that is written as it is. -/
def isPrintable (c : Char) : Bool :=
  let n := c.toNat
  n == 0x0A || (0x20 ≤ n && n ≤ 0x7E) || (0xA0 ≤ n && n ≤ 0xD7FF) || (0xE000 ≤ n && n ≤ 0xFFFD && n != 0xFEFF) ||
    0x10000 ≤ n

/-- What the writer of a text has to know about it. -/
structure Look where
  multiline : Bool
  plainAllowed : Bool
  singleAllowed : Bool
  linesAllowed : Bool
  deriving Repr

/-- A mark that a scalar without quotes cannot start with. -/
def isOpeningMark (c : Char) : Bool :=
  ['#', ',', '[', ']', '{', '}', '&', '*', '!', '|', '>', '\'', '"', '%', '@', '`'].contains c

/-- Does the character next to a place count as a gap? -/
def gapNext : List Char → Bool
  | [] => true
  | c :: _ => isGap c

/-- Does the rest of a text, after a gap or not, contain a mark that would end a scalar without quotes? -/
def hasInnerMark (afterGap : Bool) : List Char → Bool
  | [] => false
  | c :: s => (c = ':' && gapNext s) || (c = '#' && afterGap) || hasInnerMark (isGap c) s

/-- Would the text be something else without quotes? -/
def hasMark : List Char → Bool
  | [] => false
  | c :: s =>
    isOpeningMark c || ((c = '?' || c = ':' || c = '-') && gapNext s) || hasInnerMark (isGap c) s ||
      (c :: s).take 3 == ['-', '-', '-'] || (c :: s).take 3 == ['.', '.', '.']

/-- Is there a character of the first kind right before one of the second? -/
def hasPair (p q : Char → Bool) : List Char → Bool
  | c :: d :: s => (p c && q d) || hasPair p q (d :: s)
  | _ => false

/-- The look of a text. -/
def Look.of (s : List Char) : Look :=
  if s.isEmpty then ⟨false, true, true, false⟩
  else
    let space (c : Char) := c = ' '
    let edge (c : Char) := space c || isBreak c
    let multiline := s.any isBreak
    let edges := s.head?.any edge || s.getLast?.any edge
    let breakSpace := hasPair isBreak space s
    let special := hasPair space isBreak s || !s.all isPrintable
    { multiline
      plainAllowed := !(multiline || edges || special || hasMark s)
      singleAllowed := !(breakSpace || special)
      linesAllowed := !(s.getLast?.any space || special) }

/-- The ways to write a text. -/
inductive Manner
  | plain
  | single
  | double
  | wholeLines
  deriving Repr, DecidableEq

/-- Would the text be read as something other than a text? -/
def isAmbiguous (s : String) : Bool :=
  let cs := s.toList
  cs.isEmpty || Document.Plain.isNull s || (Document.Plain.bool? s).isSome ||
    (Document.Plain.nat? cs).any (· < Nat.pow 2 128) || (Document.Plain.negative? cs).any (· ≤ Nat.pow 2 127) ||
    (Document.Plain.float? s).isSome || Document.Plain.hasLeadingZero (if cs.head? = some '-' || cs.head? = some '+' then cs.tail else cs)

/-- The manner that a text asks for. -/
def Manner.wanted (s : String) : Manner :=
  if s.toList.contains '\n' then .wholeLines else if isAmbiguous s then .single else .plain

/-- The manner in which a text is written; a simple key is on one line. -/
def Manner.fit (look : Look) (simpleKey : Bool) (isEmpty : Bool) (wanted : Manner) : Manner :=
  let m := if simpleKey && look.multiline then .double else wanted
  let m := if m = .plain && (!look.plainAllowed || (isEmpty && simpleKey)) then .single else m
  let m := if m = .single && !look.singleAllowed then .double else m
  if m = .wholeLines && (!look.linesAllowed || simpleKey) then .double else m

/-! ## The text so far -/

/-- What has been written. -/
structure Page where
  /-- The characters, the last one first. -/
  done : List Char := []
  column : Nat := 0
  /-- Is the last thing written a gap? -/
  afterGap : Bool := true
  /-- Does the line hold nothing but indentation and marks? -/
  atIndent : Bool := true

namespace Page

/-- Writes a character on the line. -/
def put (p : Page) (c : Char) : Page := { p with done := c :: p.done, column := p.column + 1 }

/-- Writes characters on the line. -/
def puts (p : Page) (cs : List Char) : Page := cs.foldl put p

/-- Ends the line with a character. -/
def breakLine (p : Page) (c : Char) : Page := { p with done := c :: p.done, column := 0 }

/-- Goes to a column, on a new line unless the line is still at its indentation. -/
def goTo (p : Page) (indent : Int) : Page :=
  let n := indent.toNat
  let p := if !p.atIndent || n < p.column || (p.column == n && !p.afterGap) then p.breakLine '\n' else p
  { p.puts (List.replicate (n - p.column) ' ') with afterGap := true, atIndent := true }

/-- Writes a mark. -/
def mark (p : Page) (cs : List Char) (spaced isGap keepsIndent : Bool) : Page :=
  let p := if spaced && !p.afterGap then p.put ' ' else p
  { p.puts cs with afterGap := isGap, atIndent := p.atIndent && keepsIndent }

/-- Writes a scalar without quotes. -/
def plain (p : Page) (cs : List Char) : Page :=
  let p := if !p.afterGap && !cs.isEmpty then p.put ' ' else p
  { p.puts cs with afterGap := false, atIndent := false }

/-- Writes the inside of a single-quoted scalar; the flag tells whether a line just ended. -/
def singleBody (indent : Int) : Bool → List Char → Page → Page
  | ended, [], p => if ended then p.goTo indent else p
  | ended, c :: s, p =>
    if c = ' ' then singleBody indent ended s (p.put c)
    else if isBreak c then
      let p := if !ended && c = '\n' then p.breakLine '\n' else p
      singleBody indent true s { p.breakLine c with atIndent := true }
    else
      let p := if ended then p.goTo indent else p
      let p := if c = '\'' then p.put '\'' else p
      singleBody indent false s { p.put c with atIndent := false }

/-- Writes a single-quoted scalar. -/
def single (p : Page) (indent : Int) (cs : List Char) : Page :=
  let p := p.mark ['\''] true false false
  let p := singleBody indent false cs p
  { p.mark ['\''] false false false with afterGap := false, atIndent := false }

/-- The upper-case hexadecimal digits of a number. -/
def hexDigits : Nat → Nat → List Char
  | 0, _ => []
  | k + 1, n => hexDigits k (n / 16) ++ [(Text.hexDigit (n % 16)).toUpper]

/-- A character inside double quotes. -/
def escape (c : Char) : List Char :=
  if isPrintable c && !isBreak c && c != '"' && c != '\\' then [c]
  else
    let n := c.toNat
    '\\' ::
      (if n == 0 then ['0'] else if n == 7 then ['a'] else if n == 8 then ['b'] else if n == 9 then ['t']
      else if n == 10 then ['n'] else if n == 11 then ['v'] else if n == 12 then ['f'] else if n == 13 then ['r']
      else if n == 27 then ['e'] else if c = '"' then ['"'] else if c = '\\' then ['\\'] else if n == 0x85 then ['N']
      else if n == 0xA0 then ['_'] else if n == 0x2028 then ['L'] else if n == 0x2029 then ['P']
      else if n ≤ 0xFF then 'x' :: hexDigits 2 n
      else if n ≤ 0xFFFF then 'u' :: hexDigits 4 n
      else 'U' :: hexDigits 8 n)

/-- Writes a double-quoted scalar. -/
def double (p : Page) (cs : List Char) : Page :=
  let p := p.mark ['"'] true false false
  (p.puts (cs.flatMap escape)).mark ['"'] false false false

/-- Writes whole lines; the flag tells whether a line just ended. -/
def linesBody (indent : Int) : Bool → List Char → Page → Page
  | _, [], p => p
  | ended, c :: s, p =>
    if isBreak c then linesBody indent true s { p.breakLine c with atIndent := true }
    else
      let p := if ended then p.goTo indent else p
      linesBody indent false s { p.put c with atIndent := false }

/-- Does the text end in an empty line? -/
def endsOpen (cs : List Char) : Bool :=
  match cs.reverse with
  | [c] => isBreak c
  | c :: d :: _ => isBreak c && isBreak d
  | [] => false

/-- Writes a scalar of whole lines.  The header gives the indentation when the first line starts with a space or is
empty, and says how the end of the text is kept. -/
def wholeLines (p : Page) (indent : Int) (cs : List Char) : Page :=
  let p := p.mark ['|'] true false false
  let p := if cs.head?.any fun c => c = ' ' || isBreak c then p.put '2' else p
  let p :=
    if !cs.getLast?.any isBreak then p.put '-' else if endsOpen cs then p.put '+' else p
  linesBody indent true cs { p.breakLine '\n' with afterGap := true, atIndent := true }

/-- Writes a text below an indentation. -/
def text (p : Page) (indent : Int) (simpleKey : Bool) (s : String) : Page :=
  let cs := s.toList
  let inner := if indent < 0 then 2 else indent + 2
  match (Manner.wanted s).fit (Look.of cs) simpleKey cs.isEmpty with
  | .plain => p.plain cs
  | .single => p.single inner cs
  | .double => p.double cs
  | .wholeLines => p.wholeLines inner cs

end Page

/-- The longest key without marks of its own, in bytes. -/
def maxSimpleKey : Nat := 128

/-- Can the text be a key without marks of its own? -/
def isSimpleKey (s : String) : Bool := !s.toList.any isBreak && s.utf8ByteSize ≤ maxSimpleKey

/-- Writes a key and the mark of its value. -/
def writeKey (p : Page) (indent : Int) (key : String) : Page :=
  let p := p.goTo indent
  if isSimpleKey key then (p.text indent true key).mark [':'] false false false
  else (((p.mark ['?'] true false true).text indent false key).goTo indent).mark [':'] true false true

mutual

/-- Writes a value below an indentation. -/
def write (indent : Int) (belowKey : Bool) : Json → Page → Page
  | .null, p => p.plain ['n', 'u', 'l', 'l']
  | .bool b, p => p.plain (if b then ['t', 'r', 'u', 'e'] else ['f', 'a', 'l', 's', 'e'])
  | .int i, p => p.plain (Json.integer i)
  | .float x, p => p.plain (Decimal.block.render x).toList
  | .text s, p => p.text indent false s
  | .list [], p => (p.mark ['['] true true false).mark [']'] false false false
  | .list (v :: items), p =>
    let inner := if indent < 0 then 0 else if belowKey && !p.atIndent then indent else indent + 2
    writeItems inner items (write inner false v ((p.goTo inner).mark ['-'] true false true))
  | .record [], p => (p.mark ['{'] true true false).mark ['}'] false false false
  | .record ((k, v) :: fields), p =>
    let inner := if indent < 0 then 0 else indent + 2
    writeFields inner fields (write inner true v (writeKey p inner k))

/-- Writes the items after the first. -/
def writeItems (indent : Int) : List Json → Page → Page
  | [], p => p
  | v :: items, p => writeItems indent items (write indent false v ((p.goTo indent).mark ['-'] true false true))

/-- Writes the fields after the first. -/
def writeFields (indent : Int) : List (String × Json) → Page → Page
  | [], p => p
  | (k, v) :: fields, p => writeFields indent fields (write indent true v (writeKey p indent k))

end

/-- A value tree as a document. -/
def render (v : Json) : String := .ofList ((write (-1) false v {}).goTo 0).done.reverse

end AgentTrial.Yaml
