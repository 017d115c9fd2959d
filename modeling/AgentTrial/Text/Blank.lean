/-!
# Blank — white space, trimming, words and lines

A character is blank when it has the Unicode property `White_Space`, twenty-five code points in all.  Texts are
handled as lists of characters; the functions on `String` wrap those.
-/

namespace AgentTrial.Text

/-- The property `White_Space`. -/
def isBlank (c : Char) : Bool :=
  let n := c.toNat
  (9 ≤ n && n ≤ 13) || n == 0x20 || n == 0x85 || n == 0xA0 || n == 0x1680 || (0x2000 ≤ n && n ≤ 0x200A) ||
    n == 0x2028 || n == 0x2029 || n == 0x202F || n == 0x205F || n == 0x3000

/-- The list without the blanks at its start. -/
def trimStart (s : List Char) : List Char := s.dropWhile isBlank

/-- The list without the blanks at its end. -/
def trimEnd : List Char → List Char
  | [] => []
  | c :: s =>
    match trimEnd s with
    | [] => if isBlank c then [] else [c]
    | t => c :: t

/-- The list without the blanks at both ends. -/
def trimChars (s : List Char) : List Char := trimEnd (trimStart s)

/-- The text without the blanks at both ends. -/
def trim (s : String) : String := .ofList (trimChars s.toList)

/-- A text of blanks only, the empty text among them. -/
def isBlankText (s : String) : Bool := s.toList.all isBlank

/-- The number of maximal runs of characters that are not blank. -/
def wordCount (s : String) : Nat :=
  (s.toList.foldl (fun (inWord, n) c => if isBlank c then (false, n) else (true, if inWord then n else n + 1))
    (false, 0)).2

/-- The list cut at every line feed; what follows the last one is a piece too. -/
def splitLines : List Char → List (List Char)
  | [] => [[]]
  | c :: s =>
    match splitLines s with
    | [] => [[c]]
    | l :: ls => if c = '\n' then [] :: l :: ls else (c :: l) :: ls

/-- A line without the carriage return that belongs to its line feed. -/
def dropReturn (l : List Char) : List Char := if l.getLast? = some '\r' then l.dropLast else l

/-- The lines of a text: each ends at a line feed, with or without a carriage return before it, and a last line
without one counts when it is not empty. -/
def lines (s : List Char) : List (List Char) :=
  let pieces := splitLines s
  let last := pieces.getLastD []
  pieces.dropLast.map dropReturn ++ if last.isEmpty then [] else [last]

@[simp] theorem trimEnd_nil : trimEnd [] = [] := rfl

theorem trimEnd_concat_of {c : Char} (h : isBlank c = false) (s : List Char) :
    trimEnd (s ++ [c]) = s ++ [c] := by
  induction s with
  | nil => simp [trimEnd, h]
  | cons d s ih =>
    rw [List.cons_append, trimEnd, ih]
    cases s <;> rfl

theorem trimStart_cons_of {c : Char} (h : isBlank c = false) (s : List Char) : trimStart (c :: s) = c :: s := by
  simp [trimStart, h]

end AgentTrial.Text
