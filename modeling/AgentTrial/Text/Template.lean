import AgentTrial.Text.Blank
import AgentTrial.Text.Search

/-!
# Template — texts with placeholders

A template is cut from the left into literal pieces and placeholders `{{ key }}`, and a tail without a complete
placeholder.  Rendering replaces each placeholder whose trimmed key has a value and leaves the others as they are, so
an inserted value is never read again.
-/

namespace AgentTrial.Text

/-- A literal piece and the placeholder after it, by its text between the braces. -/
structure Hole where
  before : List Char
  key : List Char
  deriving Repr, DecidableEq

/-- The holes of a template in order, and the tail. -/
structure Template where
  holes : List Hole
  tail : List Char
  deriving Repr, DecidableEq

namespace Template

/-- The mark that opens a placeholder. -/
def opening : List Char := ['{', '{']

/-- The mark that closes a placeholder. -/
def closing : List Char := ['}', '}']

/-- The decomposition of a text by leftmost scanning. -/
def ofChars (s : List Char) : Template :=
  match _h : cut? opening s with
  | none => ⟨[], s⟩
  | some (before, rest) =>
    match _h' : cut? closing rest with
    | none => ⟨[], s⟩
    | some (key, next) =>
      let t := ofChars next
      ⟨⟨before, key⟩ :: t.holes, t.tail⟩
termination_by s.length
decreasing_by
  have := cut?_length _h
  have := cut?_length _h'
  simp [opening, closing] at *
  omega

/-- A placeholder filled in by a look-up of its trimmed key. -/
def Hole.fill (lookup : String → Option String) (h : Hole) : List Char :=
  h.before ++
    match lookup (.ofList (trimChars h.key)) with
    | some v => v.toList
    | none => opening ++ h.key ++ closing

/-- The text of a template under a look-up. -/
def fill (t : Template) (lookup : String → Option String) : List Char :=
  t.holes.flatMap (Hole.fill lookup) ++ t.tail

end Template

/-- A text with its placeholders filled in. -/
def render (template : String) (lookup : String → Option String) : String :=
  .ofList ((Template.ofChars template.toList).fill lookup)

end AgentTrial.Text
