/-!
# Pattern — patterns of names

A star stands for any text, a question mark for one character and brackets for one of several; what is quoted stands
for itself.
-/

namespace AgentTrial.Shell

/-- A character of a word, with its quoting. -/
structure Glyph where
  char : Char
  quoted : Bool
  deriving Repr, DecidableEq

/-- A part of a pattern. -/
inductive Atom
  | star
  | any
  | one (c : Char)
  | oneOf (negated : Bool) (ranges : List (Char × Char))
  deriving Repr, DecidableEq

/-- Does some rest of the text, the whole among them, pass a test? -/
def someRest (test : List Char → Bool) : List Char → Bool
  | [] => test []
  | c :: s => test (c :: s) || someRest test s

/-- Does the text match? -/
def matchesAtoms : List Atom → List Char → Bool
  | [], s => s.isEmpty
  | .star :: p, s => someRest (matchesAtoms p) s
  | .any :: p, _ :: s => matchesAtoms p s
  | .one d :: p, c :: s => c = d && matchesAtoms p s
  | .oneOf negated ranges :: p, c :: s =>
    (ranges.any (fun (low, high) => low ≤ c && c ≤ high) != negated) && matchesAtoms p s
  | _ :: _, [] => false

/-- The ranges inside of brackets, and the rest after them. -/
def ranges? : List Glyph → Option (List (Char × Char) × List Glyph)
  | [] => none
  | ⟨']', false⟩ :: p => some ([], p)
  | ⟨low, _⟩ :: ⟨'-', false⟩ :: ⟨high, q⟩ :: p =>
    if high = ']' && !q then some ([(low, low), ('-', '-')], p)
    else (ranges? p).map fun (rs, p) => ((low, high) :: rs, p)
  | ⟨c, _⟩ :: p => (ranges? p).map fun (rs, p) => ((c, c) :: rs, p)

/-- The ranges after an opening bracket; a closing one that comes first belongs to them. -/
def brackets? (p : List Glyph) : Option (Atom × List Glyph) :=
  let (negated, p) := match p with
    | ⟨'!', false⟩ :: p => (true, p)
    | ⟨'^', false⟩ :: p => (true, p)
    | p => (false, p)
  match p with
  | ⟨']', false⟩ :: p => (ranges? p).map fun (rs, p) => (.oneOf negated ((']', ']') :: rs), p)
  | p => (ranges? p).map fun (rs, p) => (.oneOf negated rs, p)

/-- The atoms of a pattern. -/
def atoms : Nat → List Glyph → List Atom
  | 0, _ => []
  | _, [] => []
  | fuel + 1, g :: p =>
    if g.quoted then .one g.char :: atoms fuel p
    else if g.char = '*' then .star :: atoms fuel p
    else if g.char = '?' then .any :: atoms fuel p
    else if g.char = '[' then
      match brackets? p with
      | some (a, p) => a :: atoms fuel p
      | none => .one '[' :: atoms fuel p
    else .one g.char :: atoms fuel p

/-- Does a text match a pattern? -/
def glyphsMatch (p : List Glyph) (s : List Char) : Bool := matchesAtoms (atoms p.length p) s

/-- Has a word an unquoted mark of patterns? -/
def isPattern (p : List Glyph) : Bool := p.any fun g => !g.quoted && ['*', '?', '['].contains g.char

/-- The lengths of the starts of a text that match, the shortest first. -/
def matchingStarts (p : List Glyph) (s : List Char) : List Nat :=
  (List.range (s.length + 1)).filter fun n => glyphsMatch p (s.take n)

/-- The starts of the ends of a text that match, the longest end first. -/
def matchingEnds (p : List Glyph) (s : List Char) : List Nat :=
  (List.range (s.length + 1)).filter fun n => glyphsMatch p (s.drop n)

end AgentTrial.Shell
