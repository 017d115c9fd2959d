import AgentTrial.Shell.Calculation
import AgentTrial.Store.Basic

/-!
# Condition — tests of files, texts and numbers

A condition is a list of words: operators with their operands, joined by `-a` and `-o`, turned around by an exclamation
mark and grouped by brackets.
-/

namespace AgentTrial.Shell

/-- Why a condition cannot be tested. -/
inductive ConditionError
  | unexpectedOperator (word : String)
  | argumentExpected
  | illegalNumber (word : String)
  deriving Repr, DecidableEq

/-- The sentence for an error in a condition. -/
def ConditionError.message : ConditionError → String
  | unexpectedOperator word => word ++ ": unexpected operator"
  | argumentExpected => "argument expected"
  | illegalNumber word => "Illegal number: " ++ word

/-- The truth about a file. -/
def fileTest? (s : Store) (base : Location) (op path : String) : Option Bool :=
  match op with
  | "-e" => some (s.has base path)
  | "-f" => some (s.hasFile base path)
  | "-d" => some (s.hasDirectory base path)
  | "-r" => some (s.has base path)
  | "-w" => some (s.has base path)
  | "-x" => some (s.hasDirectory base path)
  | "-s" =>
    some (s.hasDirectory base path || match s.read base path with
      | .ok data => data.size != 0
      | .error _ => false)
  | "-h" => some false
  | "-L" => some false
  | _ => none

/-- The truth about a word. -/
def wordTest? (s : Store) (base : Location) (op word : String) : Option Bool :=
  match op with
  | "-n" => some (word != "")
  | "-z" => some (word == "")
  | "-t" => some false
  | _ => fileTest? s base op word

/-- The comparison of numbers that an operator makes. -/
def comparison? : String → Option (Int → Int → Bool)
  | "-eq" => some fun a b => a == b
  | "-ne" => some fun a b => a != b
  | "-lt" => some fun a b => a < b
  | "-le" => some fun a b => a ≤ b
  | "-gt" => some fun a b => b < a
  | "-ge" => some fun a b => b ≤ a
  | _ => none

/-- A whole number of a condition. -/
def conditionNumber (word : String) : Except ConditionError Int :=
  match signedNumber? word.toList with
  | some n => .ok n
  | none => .error (.illegalNumber word)

/-- The truth about two words. -/
def pairTest? (op a b : String) : Option (Except ConditionError Bool) :=
  match op with
  | "=" => some (.ok (a == b))
  | "==" => none
  | "!=" => some (.ok (a != b))
  | "<" => some (.ok (a < b))
  | ">" => some (.ok (b < a))
  | _ => (comparison? op).map fun compare => do
    let m ← conditionNumber a
    let n ← conditionNumber b
    return compare m n

/-- A test of words, which are taken from the front. -/
abbrev Test (α : Type) := StateT (List String) (Except ConditionError) α

mutual

/-- Conditions of which one has to hold. -/
def anyOf (s : Store) (base : Location) : Nat → Test Bool
  | 0 => throw .argumentExpected
  | fuel + 1 => do
    let left ← allOf s base fuel
    match ← get with
    | "-o" :: rest =>
      set rest
      let right ← anyOf s base fuel
      return left || right
    | _ => return left
termination_by structural fuel => fuel

/-- Conditions that have to hold together. -/
def allOf (s : Store) (base : Location) : Nat → Test Bool
  | 0 => throw .argumentExpected
  | fuel + 1 => do
    let left ← oneOf s base fuel
    match ← get with
    | "-a" :: rest =>
      set rest
      let right ← allOf s base fuel
      return left && right
    | _ => return left
termination_by structural fuel => fuel

/-- A single condition. -/
def oneOf (s : Store) (base : Location) : Nat → Test Bool
  | 0 => throw .argumentExpected
  | fuel + 1 => do
    match ← get with
    | [] => throw .argumentExpected
    | [word] =>
      set ([] : List String)
      return word != ""
    | a :: op :: rest =>
      match rest with
      | b :: after =>
        if let some outcome := pairTest? op a b then
          set after
          match outcome with
          | .ok v => return v
          | .error e => throw e
      | [] => pure ()
      if a = "!" then
        set (op :: rest)
        return !(← oneOf s base fuel)
      else if a = "(" then
        set (op :: rest)
        let v ← anyOf s base fuel
        match ← get with
        | ")" :: after =>
          set after
          return v
        | _ => throw .argumentExpected
      else
        match wordTest? s base a op with
        | some v =>
          set rest
          return v
        | none =>
          set (op :: rest)
          return a != ""
termination_by structural fuel => fuel

end

/-- The truth of a condition. -/
def testWords (s : Store) (base : Location) (words : List String) : Except ConditionError Bool :=
  if words.isEmpty then .ok false
  else
    match (anyOf s base (4 * words.length + 4)).run words with
    | .error e => .error e
    | .ok (v, []) => .ok v
    | .ok (_, word :: _) => .error (.unexpectedOperator word)

end AgentTrial.Shell
