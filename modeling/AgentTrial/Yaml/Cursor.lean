/-!
# Cursor — a place in a block document

The rest of the text together with the number of characters read, the line and the column, and the character classes
of block documents.  A line ends at a line feed, a carriage return, both together, a next-line character or one of the
two Unicode separators.
-/

namespace AgentTrial.Yaml

/-- A place in a text. -/
structure Cursor where
  rest : List Char
  index : Nat := 0
  line : Nat := 0
  column : Nat := 0
  deriving Repr

/-- A character that a block document may contain. -/
def isAllowed (c : Char) : Bool :=
  let n := c.toNat
  n == 9 || n == 10 || n == 13 || (0x20 ≤ n && n ≤ 0x7E) || n == 0x85 || (0xA0 ≤ n && n ≤ 0xD7FF) ||
    (0xE000 ≤ n && n ≤ 0xFFFD) || 0x10000 ≤ n

/-- A space or a tab. -/
def isInline (c : Char) : Bool := c = ' ' || c = '\t'

/-- A character that ends a line. -/
def isBreak (c : Char) : Bool :=
  c = '\n' || c = '\r' || c.toNat == 0x85 || c.toNat == 0x2028 || c.toNat == 0x2029

/-- A space, a tab or the end of a line. -/
def isGap (c : Char) : Bool := isInline c || isBreak c

/-- A character of anchors, aliases and tag handles. -/
def isName (c : Char) : Bool := c.isAlphanum || c = '_' || c = '-'

/-- One of the marks of flow collections. -/
def isFlowMark (c : Char) : Bool := c = ',' || c = '[' || c = ']' || c = '{' || c = '}'

namespace Cursor

/-- The character `n` places ahead. -/
def ahead (k : Cursor) (n : Nat) : Option Char := k.rest[n]?

/-- Does the character `n` places ahead satisfy a predicate? -/
def ahead? (k : Cursor) (n : Nat) (p : Char → Bool) : Bool := (k.ahead n).any p

/-- Is the character `n` places ahead a gap or the end of the text? -/
def gapAt (k : Cursor) (n : Nat) : Bool := (k.ahead n).all isGap

/-- The place after `n` characters that end no line. -/
def skip (k : Cursor) (n : Nat) : Cursor :=
  { k with rest := k.rest.drop n, index := k.index + n, column := k.column + n }

/-- The place after the end of a line, and that end as it counts in a scalar. -/
def skipLine (k : Cursor) : Cursor × List Char :=
  match k.rest with
  | '\r' :: '\n' :: s => (⟨s, k.index + 2, k.line + 1, 0⟩, ['\n'])
  | c :: s =>
    if isBreak c then
      (⟨s, k.index + 1, k.line + 1, 0⟩, [if c.toNat == 0x2028 || c.toNat == 0x2029 then c else '\n'])
    else (k, [])
  | [] => (k, [])

/-- The characters that satisfy a predicate, none of which ends a line, and the place after them. -/
def span (k : Cursor) (p : Char → Bool) : List Char × Cursor :=
  let cs := k.rest.takeWhile p
  (cs, k.skip cs.length)

/-- Is this a line that starts with three marks and a gap? -/
def atDocumentMark (k : Cursor) : Bool :=
  k.column == 0 && (k.rest.take 3 == ['-', '-', '-'] || k.rest.take 3 == ['.', '.', '.']) && k.gapAt 3

end Cursor

end AgentTrial.Yaml
