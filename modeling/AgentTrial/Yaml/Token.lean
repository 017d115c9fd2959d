import AgentTrial.Yaml.Scalar

/-!
# Token — a block document as tokens

Indentation becomes start and end tokens.  A scalar on one line may turn out to be the key of a field only when the
colon after it is read; the place where a key token would go is remembered until then.  There is one such place for
every level of flow collections.
-/

namespace AgentTrial.Yaml

/-- How a scalar is written. -/
inductive Style
  | plain
  | quoted
  | literal
  | folded
  deriving Repr, DecidableEq

/-- A token. -/
inductive Token
  | version (major minor : Nat)
  | tagHandle (handle start : String)
  | documentStart
  | documentEnd
  | blockListStart
  | blockRecordStart
  | blockEnd
  | flowListStart
  | flowListEnd
  | flowRecordStart
  | flowRecordEnd
  | entry
  | comma
  | key
  | value
  | alias (name : String)
  | anchor (name : String)
  | tag (handle suffix : String)
  | scalar (style : Style) (text : String)
  | finish
  deriving Repr, DecidableEq

/-- The place of a possible key. -/
structure KeyPlace where
  /-- Has the token here to be a key? -/
  required : Bool
  /-- The number of tokens before it. -/
  token : Nat
  index : Nat
  line : Nat
  column : Nat
  deriving Repr

/-- The state between two tokens. -/
structure Scanner where
  cursor : Cursor
  tokens : Array Token := #[]
  /-- The possible key of each level, the innermost first. -/
  keys : List (Option KeyPlace) := [none]
  indent : Int := -1
  indents : List Int := []
  /-- May a key start here? -/
  keyAllowed : Bool := true

namespace Scanner

/-- Inside a flow collection. -/
def inFlow (s : Scanner) : Bool := 1 < s.keys.length

/-- Adds a token. -/
def push (s : Scanner) (t : Token) : Scanner := { s with tokens := s.tokens.push t }

/-- Forgets the possible key of the innermost level; one that had to be a key is an error. -/
def dropKey (s : Scanner) : Option Scanner :=
  match s.keys with
  | some k :: keys => if k.required then none else some { s with keys := none :: keys }
  | _ => some s

/-- Remembers a possible key at the current place. -/
def saveKey (s : Scanner) : Option Scanner :=
  if s.keyAllowed then do
    let s ← s.dropKey
    let k := s.cursor
    let place : KeyPlace := ⟨!s.inFlow && s.indent == (k.column : Int), s.tokens.size, k.index, k.line, k.column⟩
    return { s with keys := some place :: s.keys.tail }
  else some s

/-- Forgets the possible keys that are on an earlier line or too far back. -/
def dropStaleKeys (s : Scanner) : Option Scanner := do
  let stale (k : KeyPlace) : Bool := k.line < s.cursor.line || k.index + 1024 < s.cursor.index
  let keys ← s.keys.mapM fun
    | some k => if stale k then if k.required then none else some none else some (some k)
    | none => some none
  return { s with keys }

/-- Opens a block collection when the column is deeper than the indentation. -/
def indentTo (s : Scanner) (column : Nat) (start : Token) (at? : Option Nat) : Scanner :=
  if s.inFlow || (column : Int) ≤ s.indent then s
  else
    { s with
      indent := column
      indents := s.indent :: s.indents
      tokens := match at? with
        | some n => s.tokens.insertIdxIfInBounds n start
        | none => s.tokens.push start }

/-- Closes the block collections deeper than a column; there are at most as many as indentations. -/
def dedentTo (column : Int) : Nat → Scanner → Scanner
  | 0, s => s
  | n + 1, s =>
    if s.inFlow || s.indent ≤ column then s
    else dedentTo column n { s.push .blockEnd with indent := s.indents.headD (-1), indents := s.indents.tail }

/-- Closes the block collections deeper than a column. -/
def dedent (s : Scanner) (column : Int) : Scanner := dedentTo column s.indents.length s

/-- Skips blanks, comments and ends of lines. -/
def skipGaps : Nat → Scanner → Scanner
  | 0, s => s
  | fuel + 1, s =>
    let k := s.cursor
    let k := if k.index == 0 && k.ahead? 0 (·.toNat == 0xFEFF) then k.skip 1 else k
    let (_, k) := k.span fun c => c = ' ' || ((s.inFlow || !s.keyAllowed) && c = '\t')
    let k := if k.ahead 0 = some '#' then (k.span (!isBreak ·)).2 else k
    if k.ahead? 0 isBreak then
      let k := k.skipLine.1
      skipGaps fuel { s with cursor := k, keyAllowed := s.keyAllowed || !s.inFlow }
    else { s with cursor := k }

/-- A number of a version. -/
def versionNumber (k : Cursor) : Option (Nat × Cursor) :=
  let (ds, k) := k.span Char.isDigit
  if ds.isEmpty || 9 < ds.length then none else some (ds.foldl (fun n c => 10 * n + (c.toNat - 48)) 0, k)

/-- The version of a directive. -/
def versionDirective (k : Cursor) : Option (Token × Cursor) := do
  let (major, k) ← versionNumber k
  if k.ahead 0 = some '.' then
    let (minor, k) ← versionNumber (k.skip 1)
    return (.version major minor, k)
  else none

/-- The handle of a directive and what it stands for. -/
def tagDirective (k : Cursor) : Option (Token × Cursor) := do
  let (handle, k) ← readHandle k
  if (handle ≠ "!" && !handle.endsWith "!") || !k.ahead? 0 isInline then none
  else
    let (_, k) := k.span isInline
    let (start, k) ← readAddress true k
    if start.isEmpty || !k.gapAt 0 then none else return (.tagHandle handle start, k)

/-- A directive, at its mark. -/
def directive (s : Scanner) : Option Scanner := do
  let s := s.dedent (-1)
  let s ← s.dropKey
  let (name, k) := (s.cursor.skip 1).span isName
  if name.isEmpty || !k.gapAt 0 then none
  else
    let (_, k) := k.span isInline
    let (t, k) ←
      if name = ['Y', 'A', 'M', 'L'] then versionDirective k
      else if name = ['T', 'A', 'G'] then tagDirective k
      else none
    let k ← finishLine k
    return { s.push t with cursor := k, keyAllowed := false }

/-- The token of a mark that starts or ends a document. -/
def documentMark (s : Scanner) (t : Token) : Option Scanner := do
  let s ← (s.dedent (-1)).dropKey
  return { s.push t with cursor := s.cursor.skip 3, keyAllowed := false }

/-- The start of a flow collection. -/
def flowStart (s : Scanner) (t : Token) : Option Scanner := do
  let s ← s.saveKey
  return { s.push t with cursor := s.cursor.skip 1, keys := none :: s.keys, keyAllowed := true }

/-- The end of a flow collection. -/
def flowEnd (s : Scanner) (t : Token) : Option Scanner := do
  let s ← s.dropKey
  let keys := if s.inFlow then s.keys.tail else s.keys
  return { s.push t with cursor := s.cursor.skip 1, keys, keyAllowed := false }

/-- A comma. -/
def flowComma (s : Scanner) : Option Scanner := do
  let s ← s.dropKey
  return { s.push .comma with cursor := s.cursor.skip 1, keyAllowed := true }

/-- The mark of a list item. -/
def blockEntry (s : Scanner) : Option Scanner := do
  if !s.inFlow && !s.keyAllowed then none
  else
    let s := s.indentTo s.cursor.column .blockListStart none
    let s ← s.dropKey
    return { s.push .entry with cursor := s.cursor.skip 1, keyAllowed := true }

/-- The mark of a key. -/
def keyMark (s : Scanner) : Option Scanner := do
  if !s.inFlow && !s.keyAllowed then none
  else
    let s := s.indentTo s.cursor.column .blockRecordStart none
    let s ← s.dropKey
    return { s.push .key with cursor := s.cursor.skip 1, keyAllowed := !s.inFlow }

/-- The mark of a value, which makes a key of the possible key before it. -/
def valueMark (s : Scanner) : Option Scanner :=
  match s.keys with
  | some p :: keys =>
    let s := { s with tokens := s.tokens.insertIdxIfInBounds p.token .key }
    let s := s.indentTo p.column .blockRecordStart (some p.token)
    some { s.push .value with cursor := s.cursor.skip 1, keys := none :: keys, keyAllowed := false }
  | _ =>
    if !s.inFlow && !s.keyAllowed then none
    else
      let s := s.indentTo s.cursor.column .blockRecordStart none
      some { s.push .value with cursor := s.cursor.skip 1, keyAllowed := !s.inFlow }

/-- A name after its mark. -/
def named (s : Scanner) (t : String → Token) : Option Scanner := do
  let s ← s.saveKey
  let (name, k) ← readName (s.cursor.skip 1)
  return { s.push (t name) with cursor := k, keyAllowed := false }

/-- A tag. -/
def tagged (s : Scanner) : Option Scanner := do
  let s ← s.saveKey
  let ((handle, suffix), k) ← readTag s.cursor
  if k.gapAt 0 || (s.inFlow && k.ahead 0 = some ',') then
    return { s.push (.tag handle suffix) with cursor := k, keyAllowed := false }
  else none

/-- A scalar of whole lines. -/
def blockScalar (fuel : Nat) (s : Scanner) (literal : Bool) : Option Scanner := do
  let s ← s.dropKey
  let (text, k) ← readBlock literal s.indent fuel (s.cursor.skip 1)
  return { s.push (.scalar (if literal then .literal else .folded) text) with cursor := k, keyAllowed := true }

/-- A quoted scalar. -/
def quotedScalar (fuel : Nat) (s : Scanner) (single : Bool) : Option Scanner := do
  let s ← s.saveKey
  let (text, k) ← readQuoted single fuel [] (s.cursor.skip 1)
  return { s.push (.scalar .quoted text) with cursor := k, keyAllowed := false }

/-- A scalar without quotes. -/
def plainScalar (fuel : Nat) (s : Scanner) : Option Scanner := do
  let s ← s.saveKey
  let (text, broken, k) ← readPlain s.inFlow (s.indent + 1).toNat fuel [] {} s.cursor
  return { s.push (.scalar .plain text) with cursor := k, keyAllowed := broken }

/-- Can a scalar without quotes start at the current place? -/
def startsPlain (s : Scanner) (c : Char) : Bool :=
  let marks := ['-', '?', ':', ',', '[', ']', '{', '}', '#', '&', '*', '!', '|', '>', '\'', '"', '%', '@', '`']
  !(isGap c || marks.contains c) || (c = '-' && !s.cursor.ahead? 1 isInline) ||
    (!s.inFlow && (c = '?' || c = ':') && !s.cursor.gapAt 1)

/-- The next token at a character.  The fuel is more than the characters that are left. -/
def tokenAt (fuel : Nat) (s : Scanner) (c : Char) : Option Scanner :=
  let gapNext := s.cursor.gapAt 1
  if s.cursor.column == 0 && c = '%' then s.directive
  else if s.cursor.atDocumentMark then s.documentMark (if c = '-' then .documentStart else .documentEnd)
  else if c = '[' then s.flowStart .flowListStart
  else if c = '{' then s.flowStart .flowRecordStart
  else if c = ']' then s.flowEnd .flowListEnd
  else if c = '}' then s.flowEnd .flowRecordEnd
  else if c = ',' then s.flowComma
  else if c = '-' && gapNext then s.blockEntry
  else if c = '?' && (s.inFlow || gapNext) then s.keyMark
  else if c = ':' && (s.inFlow || gapNext) then s.valueMark
  else if c = '*' then s.named .alias
  else if c = '&' then s.named .anchor
  else if c = '!' then s.tagged
  else if c = '|' && !s.inFlow then blockScalar fuel s true
  else if c = '>' && !s.inFlow then blockScalar fuel s false
  else if c = '\'' then quotedScalar fuel s true
  else if c = '"' then quotedScalar fuel s false
  else if s.startsPlain c then plainScalar fuel s
  else none

/-- The end of the text. -/
def finish (s : Scanner) : Option Scanner := do
  let s ← (s.dedent (-1)).dropKey
  return s.push .finish

/-- All tokens from a state on.  Every token takes a character at least, so the fuel stays above the number of
characters that are left. -/
def scanFrom : Nat → Scanner → Option (List Token)
  | 0, _ => none
  | fuel + 1, s => do
    let s := skipGaps (fuel + 1) s
    let s ← s.dropStaleKeys
    let s := s.dedent s.cursor.column
    match s.cursor.rest with
    | [] => return (← s.finish).tokens.toList
    | c :: _ => scanFrom fuel (← tokenAt (fuel + 1) s c)

end Scanner

/-- The tokens of a text. -/
def tokens (s : List Char) : Option (List Token) :=
  if s.all isAllowed then Scanner.scanFrom (s.length + 1) { cursor := { rest := s } } else none

end AgentTrial.Yaml
