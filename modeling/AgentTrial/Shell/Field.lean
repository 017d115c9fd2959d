import AgentTrial.Shell.Pattern
import AgentTrial.Store.Basic

/-!
# Field — the fields of expanded words

What a word expands to is cut into fields: at the separators that came from a parameter or a command, never at those
that the script itself holds.  A field with a pattern then stands for the paths that match it.
-/

namespace AgentTrial.Shell

/-- What a word expands to, piece by piece. -/
inductive Mark
  | glyph (g : Glyph) (splits : Bool)
  /-- There is a field, even if nothing else is in it. -/
  | present
  /-- One field ends and the next one starts. -/
  | cut
  deriving Repr, DecidableEq

/-- Fields while they are read, the last one first; the characters of the open field are in reverse. -/
structure FieldReading where
  done : List (List Glyph)
  current : Option (List Glyph)
  /-- Did blanks end the last field, so that a separator after them ends no other? -/
  blank : Bool

namespace FieldReading

/-- No fields yet. -/
def start : FieldReading := ⟨[], none, false⟩

/-- Ends the open field, if there is one. -/
def close (r : FieldReading) : FieldReading :=
  match r.current with
  | some gs => ⟨gs.reverse :: r.done, none, false⟩
  | none => r

/-- Reads a separator. -/
def separate (r : FieldReading) (c : Char) : FieldReading :=
  if c = ' ' || c = '\t' || c = '\n' then
    if r.current.isSome then { r.close with blank := true } else r
  else if r.current.isSome then r.close
  else if r.blank then { r with blank := false }
  else { r with done := [] :: r.done }

/-- Reads a mark. -/
def step (separators : List Char) (r : FieldReading) : Mark → FieldReading
  | .glyph g splits =>
    if splits && separators.contains g.char then r.separate g.char
    else { r with current := some (g :: r.current.getD []), blank := false }
  | .present => { r with current := some (r.current.getD []) }
  | .cut => { r.close with blank := false }

/-- The fields in their order. -/
def fields (r : FieldReading) : List (List Glyph) := r.close.done.reverse

end FieldReading

/-- The fields of what words expand to. -/
def fieldsOfMarks (separators : List Char) (marks : List Mark) : List (List Glyph) :=
  (marks.foldl (FieldReading.step separators) .start).fields

/-- What a word expands to without cuts. -/
def glyphsOfMarks (marks : List Mark) : List Glyph :=
  marks.flatMap fun
    | .glyph g _ => [g]
    | .present => []
    | .cut => [⟨' ', true⟩]

/-- The text of characters. -/
def textOfGlyphs (gs : List Glyph) : String := .ofList (gs.map Glyph.char)

/-- A pattern cut at slashes. -/
def splitPattern : List Glyph → List (List Glyph)
  | [] => [[]]
  | g :: gs =>
    match splitPattern gs with
    | [] => [[g]]
    | p :: ps => if g.char = '/' then [] :: p :: ps else (g :: p) :: ps

/-- The names in a directory that match a pattern, in the order of their characters.  A name that starts with a point
has to be asked for. -/
def matchingNames (s : Store) (base : Location) (dir : String) (p : List Glyph) : List String :=
  match s.locate base (if dir.isEmpty then "." else dir) with
  | .error _ => []
  | .ok place =>
    let shown := (s.names place).filter fun name =>
      glyphsMatch p name.toList && (name.toList.head? != some '.' || (p.head?).any (·.char = '.'))
    shown.mergeSort fun a b => a ≤ b

/-- The paths that match the parts of a pattern below a directory. -/
def matchingPaths (s : Store) (base : Location) : List (List Glyph) → String → List String
  | [], dir => [dir]
  | p :: ps, dir =>
    let onward (path : String) : List String :=
      if ps.isEmpty then if s.has base path then [path] else [] else matchingPaths s base ps (path ++ "/")
    if isPattern p then (matchingNames s base dir p).flatMap fun name => onward (dir ++ name)
    else onward (dir ++ textOfGlyphs p)

/-- The paths that a field stands for. -/
def pathsOfField (s : Store) (base : Location) (field : List Glyph) : List String :=
  if isPattern field then
    match matchingPaths s base (splitPattern field) "" with
    | [] => [textOfGlyphs field]
    | paths => paths
  else [textOfGlyphs field]

end AgentTrial.Shell
