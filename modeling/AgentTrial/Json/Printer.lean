import AgentTrial.Decimal.Form
import AgentTrial.Json.Basic
import AgentTrial.Text.Literal

/-!
# Printer — value trees as text

`compact` writes no blanks at all; `pretty` puts every item on its own line, two spaces deeper than its parent, and
writes an empty list or record on one line.  Numbers that are not finite are written as null.
-/

namespace AgentTrial.Json

/-- The written form of one character of a text. -/
def escapeChar (c : Char) : List Char :=
  if c = '"' then ['\\', '"']
  else if c = '\\' then ['\\', '\\']
  else if c = '\n' then ['\\', 'n']
  else if c = '\r' then ['\\', 'r']
  else if c = '\t' then ['\\', 't']
  else if c.toNat == 8 then ['\\', 'b']
  else if c.toNat == 12 then ['\\', 'f']
  else if c.toNat < 0x20 then Text.unicodeEscape c.toNat
  else [c]

/-- A text between quotes. -/
def quoted (s : String) : List Char := '"' :: s.toList.flatMap escapeChar ++ ['"']

/-- A number; one that is not finite is null. -/
def number (x : Float) : List Char :=
  if Decimal.isFinite x then (Decimal.tree.render x).toList else ['n', 'u', 'l', 'l']

/-- The written form of an integer. -/
def integer (i : Int) : List Char :=
  (if i < 0 then ['-'] else []) ++ Nat.toDigits 10 i.natAbs

mutual

/-- The tree without blanks. -/
def compactChars : Json → List Char
  | null => ['n', 'u', 'l', 'l']
  | bool true => ['t', 'r', 'u', 'e']
  | bool false => ['f', 'a', 'l', 's', 'e']
  | int i => integer i
  | float x => number x
  | text s => quoted s
  | list [] => ['[', ']']
  | list (v :: items) => '[' :: v.compactChars ++ compactItems items ++ [']']
  | record [] => ['{', '}']
  | record ((k, v) :: fields) => '{' :: quoted k ++ ':' :: v.compactChars ++ compactFields fields ++ ['}']

/-- The items after the first, each after a comma. -/
def compactItems : List Json → List Char
  | [] => []
  | v :: items => ',' :: v.compactChars ++ compactItems items

/-- The fields after the first, each after a comma. -/
def compactFields : List (String × Json) → List Char
  | [] => []
  | (k, v) :: fields => ',' :: quoted k ++ ':' :: v.compactChars ++ compactFields fields

end

/-- The tree as one line. -/
def compact (v : Json) : String := .ofList v.compactChars

/-- A new line at a depth. -/
def newline (depth : Nat) : List Char := '\n' :: List.replicate (2 * depth) ' '

mutual

/-- The tree over several lines, its children one level deeper than `depth`. -/
def prettyChars (depth : Nat) : Json → List Char
  | list (v :: items) =>
    '[' :: newline (depth + 1) ++ v.prettyChars (depth + 1) ++ prettyItems (depth + 1) items ++ newline depth ++ [']']
  | record ((k, v) :: fields) =>
    '{' :: newline (depth + 1) ++ quoted k ++ ':' :: ' ' :: v.prettyChars (depth + 1) ++
      prettyFields (depth + 1) fields ++ newline depth ++ ['}']
  | v => v.compactChars

/-- The items after the first. -/
def prettyItems (depth : Nat) : List Json → List Char
  | [] => []
  | v :: items => ',' :: newline depth ++ v.prettyChars depth ++ prettyItems depth items

/-- The fields after the first. -/
def prettyFields (depth : Nat) : List (String × Json) → List Char
  | [] => []
  | (k, v) :: fields =>
    ',' :: newline depth ++ quoted k ++ ':' :: ' ' :: v.prettyChars depth ++ prettyFields depth fields

end

/-- The tree over several lines. -/
def pretty (v : Json) : String := .ofList (v.prettyChars 0)

end AgentTrial.Json
