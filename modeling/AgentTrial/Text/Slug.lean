import AgentTrial.Text.Letters

/-!
# Slug — names as parts of file names

A name is cut into words at every character that is neither letter nor number and at changes of case: before an
upper-case letter that follows a lower-case one, and before the last letter of an upper-case run that a lower-case
letter follows.  The words are joined by underscores in lower case and only the ASCII characters are kept.
-/

namespace AgentTrial.Text

/-- The case last seen inside a word. -/
inductive CaseMode
  | none
  | lower
  | upper
  deriving Repr, DecidableEq

/-- The mode after a character; one without case changes nothing. -/
def CaseMode.next (mode : CaseMode) (c : Char) : CaseMode :=
  if isLowerChar c then .lower else if isUpperChar c then .upper else mode

/-- The words of a run of letters and numbers.  `done` holds the characters of the current word before `c`, the last
one first. -/
def caseWords (done : List Char) (mode : CaseMode) : List Char → List (List Char)
  | [] => if done.isEmpty then [] else [done.reverse]
  | [c] => [(c :: done).reverse]
  | c :: d :: s =>
    if mode.next c = .lower ∧ isUpperChar d then (c :: done).reverse :: caseWords [] .none (d :: s)
    else if mode = .upper ∧ isUpperChar c ∧ isLowerChar d then done.reverse :: caseWords [c] .none (d :: s)
    else caseWords (c :: done) (mode.next c) (d :: s)

/-- The maximal runs of letters and numbers. -/
def wordRuns : List Char → List (List Char)
  | [] => [[]]
  | c :: s =>
    match wordRuns s with
    | [] => [[c]]
    | r :: rs => if isWordChar c then (c :: r) :: rs else [] :: r :: rs

/-- The words of a name. -/
def nameWords (s : List Char) : List (List Char) := (wordRuns s).flatMap (caseWords [] .none)

/-- The ASCII character that stands for a character in a slug, if there is one.  The Kelvin sign and the dotted
capital I are the two characters outside ASCII whose lower case has an ASCII letter. -/
def slugChar? (c : Char) : Option Char :=
  if c.isAlphanum then some c.toLower
  else if c.toNat == 0x212A then some 'k'
  else if c.toNat == 0x130 then some 'i'
  else none

/-- The slug of a name, of at most `limit` characters. -/
def slug (limit : Nat) (name : String) : List Char :=
  (['_'].intercalate ((nameWords name.toList).map (·.filterMap slugChar?))).take limit

end AgentTrial.Text
