import AgentTrial.Document.Decode

/-!
# Calculation — whole numbers in a script

A calculation has numbers, variables and the usual operators, in 64 bits with wrap-around; division cuts off what is
behind the point.
-/

namespace AgentTrial.Shell

/-- A part of a calculation. -/
inductive CalculationToken
  | number (n : Int)
  | name (s : String)
  | operator (s : String)
  deriving Repr, DecidableEq

/-- The operators, the long ones first. -/
def calculationOperators : List String :=
  ["<<=", ">>=", "<<", ">>", "<=", ">=", "==", "!=", "&&", "||", "+=", "-=", "*=", "/=", "%=", "&=", "|=", "^=",
    "+", "-", "*", "/", "%", "<", ">", "=", "!", "~", "&", "|", "^", "?", ":", "(", ")"]

/-- The value of a digit. -/
def digitValue (c : Char) : Nat :=
  if c.isDigit then c.toNat - '0'.toNat
  else if c.isLower then c.toNat - 'a'.toNat + 10
  else if c.isUpper then c.toNat - 'A'.toNat + 10
  else 99

/-- A whole number without a sign, in the base that its start tells. -/
def wholeNumber? (s : List Char) : Option Nat :=
  let (base, digits) := match s with
    | '0' :: 'x' :: s => (16, s)
    | '0' :: 'X' :: s => (16, s)
    | '0' :: c :: s => (8, c :: s)
    | s => (10, s)
  if !digits.isEmpty && digits.all (digitValue · < base) then
    some (digits.foldl (fun n c => n * base + digitValue c) 0)
  else none

/-- A whole number with or without a sign; blanks may stand around it. -/
def signedNumber? (s : List Char) : Option Int :=
  let blank (c : Char) : Bool := c = ' ' || c = '\t' || c = '\n'
  match ((s.dropWhile blank).reverse.dropWhile blank).reverse with
  | '-' :: s => (wholeNumber? s).map fun n => -(n : Int)
  | '+' :: s => (wholeNumber? s).map fun n => (n : Int)
  | s => (wholeNumber? s).map fun n => (n : Int)

/-- A number within 64 bits. -/
def wrapped (n : Int) : Int := n.bmod (Nat.pow 2 64)

/-- The parts of a calculation. -/
def calculationTokens : Nat → List Char → Option (List CalculationToken)
  | 0, _ => none
  | _ + 1, [] => some []
  | fuel + 1, c :: s =>
    if c = ' ' || c = '\t' || c = '\n' then calculationTokens fuel s
    else if c.isDigit then do
      let digits := (c :: s).takeWhile Char.isAlphanum
      let n ← wholeNumber? digits
      (.number (wrapped n) :: ·) <$> calculationTokens fuel ((c :: s).drop digits.length)
    else if c.isAlpha || c = '_' then
      let name := (c :: s).takeWhile fun d => d.isAlphanum || d = '_'
      (.name (.ofList name) :: ·) <$> calculationTokens fuel ((c :: s).drop name.length)
    else do
      let op ← calculationOperators.find? fun op => op.toList.isPrefixOf (c :: s)
      (.operator op :: ·) <$> calculationTokens fuel ((c :: s).drop op.length)

/-- Why a calculation has no value. -/
inductive CalculationError
  | primaryExpected
  | restLeft
  | divisionByZero
  | illegalNumber (text : String)
  deriving Repr, DecidableEq

/-- The sentence for an error in a calculation. -/
def CalculationError.message (expr : String) : CalculationError → String
  | primaryExpected => "arithmetic expression: expecting primary: \"" ++ expr ++ "\""
  | restLeft => "arithmetic expression: expecting EOF: \"" ++ expr ++ "\""
  | divisionByZero => "arithmetic expression: division by zero: \"" ++ expr ++ "\""
  | illegalNumber text => "Illegal number: " ++ text

/-- What a calculation goes on with: the parts that are left and the variables. -/
structure Calculation where
  rest : List CalculationToken
  vars : Table String

/-- A step of a calculation. -/
abbrev Calculate (α : Type) := StateT Calculation (Except CalculationError) α

/-- The operators between two values, the loosest ones first. -/
def binaryLevels : List (List String) :=
  [["||"], ["&&"], ["|"], ["^"], ["&"], ["==", "!="], ["<=", ">=", "<", ">"], ["<<", ">>"], ["+", "-"],
    ["*", "/", "%"]]

/-- A truth as a number. -/
def ofTruth (b : Bool) : Int := if b then 1 else 0

/-- The bits of a number in 64 bits. -/
def bitsOf (n : Int) : BitVec 64 := BitVec.ofInt 64 n

/-- The value of two numbers with an operator between them. -/
def applyOperator (op : String) (a b : Int) : Except CalculationError Int :=
  match op with
  | "||" => .ok (ofTruth (a != 0 || b != 0))
  | "&&" => .ok (ofTruth (a != 0 && b != 0))
  | "|" => .ok (bitsOf a ||| bitsOf b).toInt
  | "^" => .ok (bitsOf a ^^^ bitsOf b).toInt
  | "&" => .ok (bitsOf a &&& bitsOf b).toInt
  | "==" => .ok (ofTruth (a == b))
  | "!=" => .ok (ofTruth (a != b))
  | "<=" => .ok (ofTruth (a ≤ b))
  | ">=" => .ok (ofTruth (b ≤ a))
  | "<" => .ok (ofTruth (a < b))
  | ">" => .ok (ofTruth (b < a))
  | "<<" => .ok (bitsOf a <<< (b.toNat % 64)).toInt
  | ">>" => .ok ((bitsOf a).sshiftRight (b.toNat % 64)).toInt
  | "+" => .ok (wrapped (a + b))
  | "-" => .ok (wrapped (a - b))
  | "*" => .ok (wrapped (a * b))
  | "/" => if b = 0 then .error .divisionByZero else .ok (wrapped (a.tdiv b))
  | "%" => if b = 0 then .error .divisionByZero else .ok (a.tmod b)
  | _ => .error .primaryExpected

/-- The value of a variable; one without a value counts as 0. -/
def variableValue (name : String) : Calculate Int := do
  match Table.get? name (← get).vars with
  | none => return 0
  | some text =>
    if text.isEmpty then return 0
    match signedNumber? text.toList with
    | some n => return wrapped n
    | none => throw (.illegalNumber text)

mutual

/-- A whole calculation: an assignment, or a value with or without a choice. -/
def reckon : Nat → Calculate Int
  | 0 => throw .primaryExpected
  | fuel + 1 => do
    let s ← get
    let assign (name : String) (rest : List CalculationToken) (change : Int → Calculate Int) : Calculate Int := do
      set { s with rest }
      let n ← change (← reckon fuel)
      modify fun t => { t with vars := Table.insert name (toString n) t.vars }
      return n
    match s.rest with
    | .name x :: .operator "=" :: rest => assign x rest pure
    | .name x :: .operator op :: rest =>
      if ["+=", "-=", "*=", "/=", "%=", "&=", "|=", "^=", "<<=", ">>="].contains op then
        assign x rest fun n => do
          let old ← variableValue x
          match applyOperator (op.dropEnd 1).toString old n with
          | .ok v => return v
          | .error e => throw e
      else choice fuel
    | _ => choice fuel
termination_by structural fuel => fuel

/-- A value, or a choice between two. -/
def choice : Nat → Calculate Int
  | 0 => throw .primaryExpected
  | fuel + 1 => do
    let test ← binary fuel binaryLevels
    match (← get).rest with
    | .operator "?" :: rest =>
      modify fun s => { s with rest }
      let yes ← reckon fuel
      match (← get).rest with
      | .operator ":" :: rest =>
        modify fun s => { s with rest }
        let no ← reckon fuel
        return if test != 0 then yes else no
      | _ => throw .primaryExpected
    | _ => return test
termination_by structural fuel => fuel

/-- A value with operators of these levels. -/
def binary : Nat → List (List String) → Calculate Int
  | 0, _ => throw .primaryExpected
  | fuel + 1, [] => unary fuel
  | fuel + 1, ops :: tighter => do binaryAfter fuel ops tighter (← binary fuel tighter)
termination_by structural fuel => fuel

/-- What follows the left side of an operator. -/
def binaryAfter : Nat → List String → List (List String) → Int → Calculate Int
  | 0, _, _, _ => throw .primaryExpected
  | fuel + 1, ops, tighter, left => do
    match (← get).rest with
    | .operator op :: rest =>
      if ops.contains op then
        modify fun s => { s with rest }
        let right ← binary fuel tighter
        match applyOperator op left right with
        | .ok v => binaryAfter fuel ops tighter v
        | .error e => throw e
      else return left
    | _ => return left
termination_by structural fuel => fuel

/-- A number, a variable or a calculation in brackets, with the signs before it. -/
def unary : Nat → Calculate Int
  | 0 => throw .primaryExpected
  | fuel + 1 => do
    match (← get).rest with
    | .number n :: rest =>
      modify fun s => { s with rest }
      return n
    | .name x :: rest =>
      modify fun s => { s with rest }
      variableValue x
    | .operator "(" :: rest =>
      modify fun s => { s with rest }
      let n ← reckon fuel
      match (← get).rest with
      | .operator ")" :: rest =>
        modify fun s => { s with rest }
        return n
      | _ => throw .primaryExpected
    | .operator op :: rest =>
      modify fun s => { s with rest }
      let n ← unary fuel
      match op with
      | "-" => return wrapped (-n)
      | "+" => return n
      | "!" => return ofTruth (n == 0)
      | "~" => return -n - 1
      | _ => throw .primaryExpected
    | [] => throw .primaryExpected
termination_by structural fuel => fuel

end

/-- The value of a calculation, and the variables after it. -/
def calculate (vars : Table String) (expr : List Char) : Except CalculationError (Int × Table String) :=
  match calculationTokens (expr.length + 1) expr with
  | none => .error .primaryExpected
  | some [] => .ok (0, vars)
  | some tokens =>
    match (reckon (20 * tokens.length + 20)).run ⟨tokens, vars⟩ with
    | .error e => .error e
    | .ok (n, s) => if s.rest.isEmpty then .ok (n, s.vars) else .error .restLeft

end AgentTrial.Shell
