import AgentTrial.Yaml.Cursor

/-!
# Scalar — the text of scalars, anchors and tags

Each reader takes a place and gives a value and the place after it, or nothing when the text is refused.  A break
between two lines of a folded scalar counts as a space, and further breaks count as themselves.  The fuel of a reader
is a bound on the number of characters left.
-/

namespace AgentTrial.Yaml

/-- What stands between two pieces of a folded scalar. -/
structure Gap where
  /-- Spaces and tabs on the line of the first piece. -/
  blanks : List Char := []
  /-- The first end of a line, as it counts. -/
  first : List Char := []
  /-- The further ends of lines. -/
  more : List Char := []
  /-- Has a line ended? -/
  broken : Bool := false
  deriving Repr

namespace Gap

/-- The text that a gap stands for. -/
def text (g : Gap) : List Char :=
  if g.broken then
    if g.first.head? = some '\n' then if g.more.isEmpty then [' '] else g.more else g.first ++ g.more
  else g.blanks

/-- Reads a gap.  With an indentation, a tab left of it is refused. -/
def read (indent : Option Nat) : Nat → Gap → Cursor → Option (Gap × Cursor)
  | 0, _, _ => none
  | fuel + 1, g, k =>
    match k.rest with
    | [] => some (g, k)
    | c :: _ =>
      if isInline c then
        if g.broken && c = '\t' && indent.any (k.column < ·) then none
        else read indent fuel (if g.broken then g else { g with blanks := g.blanks ++ [c] }) (k.skip 1)
      else if isBreak c then
        let (k, b) := k.skipLine
        if g.broken then read indent fuel { g with more := g.more ++ b } k
        else read indent fuel { blanks := [], first := b, more := g.more, broken := true } k
      else some (g, k)

end Gap

/-! ## Quoted scalars -/

/-- The value of a hexadecimal digit. -/
def hexDigit? (c : Char) : Option Nat :=
  let n := c.toNat
  if 48 ≤ n ∧ n ≤ 57 then some (n - 48)
  else if 97 ≤ n ∧ n ≤ 102 then some (n - 87)
  else if 65 ≤ n ∧ n ≤ 70 then some (n - 55)
  else none

/-- The value of hexadecimal digits. -/
def hex? (ds : List Char) : Option Nat := ds.foldlM (fun n c => return 16 * n + (← hexDigit? c)) 0

/-- A code point as a character. -/
def scalarValue? (n : Nat) : Option Char :=
  if n ≤ 0x10FFFF ∧ ¬ (0xD800 ≤ n ∧ n ≤ 0xDFFF) then some (Char.ofNat n) else none

/-- The character of an escape of one letter. -/
def letterEscape? (c : Char) : Option Char :=
  match c with
  | '0' => some (Char.ofNat 0)
  | 'a' => some (Char.ofNat 7)
  | 'b' => some (Char.ofNat 8)
  | 't' => some '\t'
  | '\t' => some '\t'
  | 'n' => some '\n'
  | 'v' => some (Char.ofNat 11)
  | 'f' => some (Char.ofNat 12)
  | 'r' => some '\r'
  | 'e' => some (Char.ofNat 27)
  | ' ' => some ' '
  | '"' => some '"'
  | '/' => some '/'
  | '\\' => some '\\'
  | 'N' => some (Char.ofNat 0x85)
  | '_' => some (Char.ofNat 0xA0)
  | 'L' => some (Char.ofNat 0x2028)
  | 'P' => some (Char.ofNat 0x2029)
  | _ => none

/-- The number of digits of a numeric escape. -/
def escapeWidth? (c : Char) : Option Nat :=
  match c with
  | 'x' => some 2
  | 'u' => some 4
  | 'U' => some 8
  | _ => none

/-- The character of an escape, at the place of its backslash, and the place after it. -/
def readEscape (k : Cursor) : Option (Char × Cursor) := do
  let e ← k.ahead 1
  match escapeWidth? e with
  | some width =>
    let ds := (k.rest.drop 2).take width
    if ds.length < width then none
    else
      let c ← scalarValue? (← hex? ds)
      return (c, k.skip (2 + width))
  | none => return (← letterEscape? e, k.skip 2)

/-- The characters of a quoted scalar up to a gap or its closing quote, last one first, and whether an escaped end of a
line came last. -/
def readQuotedPiece (single : Bool) : Nat → List Char → Cursor → Option (List Char × Bool × Cursor)
  | 0, _, _ => none
  | fuel + 1, done, k =>
    match k.rest with
    | [] => some (done, false, k)
    | c :: _ =>
      if isGap c then some (done, false, k)
      else if single then
        if c = '\'' then
          if k.ahead 1 = some '\'' then readQuotedPiece single fuel ('\'' :: done) (k.skip 2) else some (done, false, k)
        else readQuotedPiece single fuel (c :: done) (k.skip 1)
      else if c = '"' then some (done, false, k)
      else if c = '\\' then
        if k.ahead? 1 isBreak then some (done, true, ((k.skip 1).skipLine).1)
        else
          match readEscape k with
          | some (c, k) => readQuotedPiece single fuel (c :: done) k
          | none => none
      else readQuotedPiece single fuel (c :: done) (k.skip 1)

/-- A quoted scalar after its opening quote. -/
def readQuoted (single : Bool) : Nat → List Char → Cursor → Option (String × Cursor)
  | 0, _, _ => none
  | fuel + 1, done, k => do
    if k.atDocumentMark || k.rest.isEmpty then none
    else
      let (done, escaped, k) ← readQuotedPiece single (fuel + 1) done k
      if k.ahead 0 = some (if single then '\'' else '"') then return (.ofList done.reverse, k.skip 1)
      else
        let (g, k) ← Gap.read none (fuel + 1) { broken := escaped } k
        readQuoted single fuel (g.text.reverse ++ done) k

/-! ## Scalars without quotes -/

/-- The characters of a scalar without quotes up to a gap or its end, last one first. -/
def readPlainPiece (flow : Bool) : Nat → List Char → Cursor → Option (List Char × Cursor)
  | 0, _, _ => none
  | fuel + 1, done, k =>
    match k.rest with
    | [] => some (done, k)
    | c :: _ =>
      if isGap c then some (done, k)
      else if flow && c = ':' && k.ahead? 1 (fun d => isFlowMark d || d = '?') then none
      else if (c = ':' && k.gapAt 1) || (flow && isFlowMark c) then some (done, k)
      else readPlainPiece flow fuel (c :: done) (k.skip 1)

/-- A scalar without quotes, and whether a line ended after its last piece.  `pending` is the gap before the next
piece. -/
def readPlain (flow : Bool) (indent : Nat) : Nat → List Char → Gap → Cursor → Option (String × Bool × Cursor)
  | 0, _, _, _ => none
  | fuel + 1, done, pending, k => do
    if k.atDocumentMark || k.ahead 0 = some '#' then return (.ofList done.reverse, pending.broken, k)
    else
      let (piece, k) ← readPlainPiece flow (fuel + 1) [] k
      let done := if piece.isEmpty then done else piece ++ pending.text.reverse ++ done
      let broken := piece.isEmpty && pending.broken
      if !k.ahead? 0 isGap then return (.ofList done.reverse, broken, k)
      else
        let (g, k) ← Gap.read (some indent) (fuel + 1) (if piece.isEmpty then pending else {}) k
        if !flow && k.column < indent then return (.ofList done.reverse, g.broken, k)
        else readPlain flow indent fuel done g k

/-! ## Scalars of whole lines -/

/-- The ends of empty lines, and the indentation: `none` until it is known.  A tab left of the indentation is
refused. -/
def readEmptyLines (parent : Int) : Nat → Option Nat → Nat → List Char → Cursor → Option (Nat × List Char × Cursor)
  | 0, _, _, _, _ => none
  | fuel + 1, indent, deepest, breaks, k =>
    let (_, k) := k.span (· = ' ') |> fun (cs, _) =>
      let n := match indent with
        | some i => min cs.length (i - k.column)
        | none => cs.length
      (cs, k.skip n)
    let deepest := max deepest k.column
    if indent.all (k.column < ·) && k.ahead 0 = some '\t' then none
    else if k.ahead? 0 isBreak then
      let (k, b) := k.skipLine
      readEmptyLines parent fuel indent deepest (breaks ++ b) k
    else
      let found := max (max deepest (parent + 1).toNat) 1
      some (indent.getD found, breaks, k)

/-- How the end of a scalar of whole lines is kept. -/
inductive Chomp
  | strip
  | clip
  | keep
  deriving Repr, DecidableEq

/-- The header of a scalar of whole lines, after its mark: how its end is kept, and its indentation if given. -/
def readBlockHeader (k : Cursor) : Option (Chomp × Option Nat × Cursor) :=
  let chomp? (k : Cursor) : Option Chomp := (k.ahead 0).bind fun c =>
    if c = '+' then some .keep else if c = '-' then some .strip else none
  let digit? (k : Cursor) : Option Nat := (k.ahead 0).bind fun c => if c.isDigit then some (c.toNat - 48) else none
  match chomp? k with
  | some c =>
    match digit? (k.skip 1) with
    | some 0 => none
    | some n => some (c, some n, k.skip 2)
    | none => some (c, none, k.skip 1)
  | none =>
    match digit? k with
    | some 0 => none
    | some n =>
      match chomp? (k.skip 1) with
      | some c => some (c, some n, k.skip 2)
      | none => some (.clip, some n, k.skip 1)
    | none => some (.clip, none, k)

/-- The blanks and the comment at the end of a line, which has to end there. -/
def finishLine (k : Cursor) : Option Cursor :=
  let (_, k) := k.span isInline
  let (_, k) := if k.ahead 0 = some '#' then k.span (!isBreak ·) else ([], k)
  if (k.ahead 0).all isBreak then some k.skipLine.1 else none

/-- The lines of a scalar of whole lines: the text so far, the end of its last line, the ends of the empty lines after
it. -/
def readBlockLines (literal : Bool) (parent : Int) (indent : Nat) :
    Nat → List Char → List Char → List Char → Bool → Cursor → Option (List Char × List Char × List Char × Cursor)
  | 0, _, _, _, _, _ => none
  | fuel + 1, done, last, empty, wasBlank, k =>
    if k.column == indent && !k.rest.isEmpty then do
      let blank := k.ahead? 0 isInline
      let done :=
        if !literal && last.head? = some '\n' && !wasBlank && !blank then
          done ++ (if empty.isEmpty then [' '] else []) ++ empty
        else done ++ last ++ empty
      let (cs, k) := k.span (!isBreak ·)
      let (k, last) := k.skipLine
      let (_, empty, k) ← readEmptyLines parent (fuel + 1) (some indent) 0 [] k
      readBlockLines literal parent indent fuel (done ++ cs) last empty blank k
    else some (done, last, empty, k)

/-- A scalar of whole lines, after its mark. -/
def readBlock (literal : Bool) (parent : Int) (fuel : Nat) (k : Cursor) : Option (String × Cursor) := do
  let (chomp, increment, k) ← readBlockHeader k
  let k ← finishLine k
  let given := increment.map fun n => (if parent ≥ 0 then parent.toNat + n else n)
  let (indent, empty, k) ← readEmptyLines parent fuel given 0 [] k
  let (done, last, empty, k) ← readBlockLines literal parent indent fuel [] [] empty false k
  let tail := match chomp with
    | .strip => []
    | .clip => last
    | .keep => last ++ empty
  return (.ofList (done ++ tail), k)

/-! ## Anchors and tags -/

/-- The name of an anchor or an alias, after its mark. -/
def readName (k : Cursor) : Option (String × Cursor) :=
  let (cs, k) := k.span isName
  let ends := k.gapAt 0 || k.ahead? 0 fun c =>
    c = '?' || c = ':' || c = ',' || c = ']' || c = '}' || c = '%' || c = '@' || c = '`'
  if cs.isEmpty || !ends then none else some (.ofList cs, k)

/-- A character of the address that a tag is. -/
def isTagChar (verbatim : Bool) (c : Char) : Bool :=
  isName c || [';', '/', '?', ':', '@', '&', '=', '+', '$', '.', '!', '~', '*', '\'', '(', ')', '%'].contains c ||
    (verbatim && (c = ',' || c = '[' || c = ']'))

/-- The octet of an escape. -/
def octet? : List Char → Option Nat
  | '%' :: a :: b :: _ => hex? [a, b]
  | _ => none

/-- The number of octets of a character by its first one, and what that one adds to the code point. -/
def octetWidth? (n : Nat) : Option (Nat × Nat) :=
  if n < 0x80 then some (1, n)
  else if 0xC0 ≤ n ∧ n < 0xE0 then some (2, n % 0x20)
  else if 0xE0 ≤ n ∧ n < 0xF0 then some (3, n % 0x10)
  else if 0xF0 ≤ n ∧ n < 0xF8 then some (4, n % 8)
  else none

/-- The code point of the octets after the first. -/
def moreOctets : Nat → Nat → List Char → Option (Nat × List Char)
  | 0, n, s => some (n, s)
  | left + 1, n, s => do
    let b ← octet? s
    if b / 64 = 2 then moreOctets left (n * 64 + b % 64) (s.drop 3) else none

/-- The text of an address with its escapes. -/
def unescapeAddress : Nat → List Char → Option (List Char)
  | 0, _ => none
  | _ + 1, [] => some []
  | fuel + 1, c :: s =>
    if c = '%' then do
      let (width, n) ← octetWidth? (← octet? (c :: s))
      let (n, s) ← moreOctets (width - 1) n (s.drop 2)
      let c ← scalarValue? n
      return c :: (← unescapeAddress fuel s)
    else (c :: ·) <$> unescapeAddress fuel s

/-- The address of a tag. -/
def readAddress (verbatim : Bool) (k : Cursor) : Option (String × Cursor) := do
  let (cs, k) := k.span (isTagChar verbatim)
  return (.ofList (← unescapeAddress (cs.length + 1) cs), k)

/-- The handle of a tag: a mark, and a name with a second mark if there is one. -/
def readHandle (k : Cursor) : Option (String × Cursor) :=
  if k.ahead 0 = some '!' then
    let (cs, k) := (k.skip 1).span isName
    if k.ahead 0 = some '!' then some (.ofList ('!' :: cs ++ ['!']), k.skip 1) else some (.ofList ('!' :: cs), k)
  else none

/-- A tag as its handle and its suffix. -/
def readTag (k : Cursor) : Option ((String × String) × Cursor) := do
  if k.ahead 1 = some '<' then
    let (address, k) ← readAddress true (k.skip 2)
    if address.isEmpty || k.ahead 0 ≠ some '>' then none else return (("", address), k.skip 1)
  else
    let (handle, k) ← readHandle k
    if 1 < handle.length && handle.endsWith "!" then
      let (suffix, k) ← readAddress false k
      if suffix.isEmpty then none else return ((handle, suffix), k)
    else
      let (more, k) ← readAddress false k
      let suffix := (handle.drop 1).toString ++ more
      return (if suffix.isEmpty then ("", "!") else ("!", suffix), k)

end AgentTrial.Yaml
