/-!
# Word — the words of a script

A word is made of pieces: characters, quoted or not, and what is put in their place when the word is used: the value of
a parameter, the output of a command, the result of a calculation.
-/

namespace AgentTrial.Shell

/-- A piece of a word. -/
inductive Piece
  | text (quoted : Bool) (s : List Char)
  /-- The value of a parameter, changed by an operator with an argument. -/
  | parameter (quoted : Bool) (name : String) (op arg : List Char)
  /-- The length of the value of a parameter. -/
  | length (quoted : Bool) (name : String)
  | command (quoted : Bool) (script : List Char)
  | arithmetic (quoted : Bool) (expr : List Char)
  deriving Repr, DecidableEq

/-- A word of a script. -/
abbrev Word := List Piece

/-- A character that a name starts with. -/
def isNameStart (c : Char) : Bool := c.isAlpha || c = '_'

/-- A character of a name. -/
def isNameChar (c : Char) : Bool := c.isAlphanum || c = '_'

/-- A parameter with a name of one mark. -/
def isSpecialParameter (c : Char) : Bool := ['#', '*', '@', '?', '$', '!', '-'].contains c || c.isDigit

/-- A character that ends a word without quotes. -/
def endsWord (c : Char) : Bool := [' ', '\t', '\n', ';', '&', '|', '(', ')', '<', '>'].contains c

/-- What is inside of quotes, in reverse, with the closing one. -/
def skipQuoted (quote : Char) : Nat → List Char → List Char → Option (List Char × List Char)
  | 0, _, _ => none
  | _ + 1, _, [] => none
  | fuel + 1, out, '\\' :: c :: s =>
    if quote = '\'' then skipQuoted quote fuel ('\\' :: out) (c :: s) else skipQuoted quote fuel (c :: '\\' :: out) s
  | fuel + 1, out, c :: s => if c = quote then some (c :: out, s) else skipQuoted quote fuel (c :: out) s

/-- What stands before the bracket that closes an opened one, and what follows it.  The output is in reverse. -/
def untilClosed (opening closing : Char) : Nat → Nat → List Char → List Char → Option (List Char × List Char)
  | 0, _, _, _ => none
  | _ + 1, _, _, [] => none
  | fuel + 1, depth, out, c :: s =>
    if c = closing then
      match depth with
      | 0 => some (out.reverse, s)
      | depth + 1 => untilClosed opening closing fuel depth (c :: out) s
    else if c = opening then untilClosed opening closing fuel (depth + 1) (c :: out) s
    else if c = '\\' then
      match s with
      | d :: s => untilClosed opening closing fuel depth (d :: c :: out) s
      | [] => none
    else if c = '"' || c = '\'' then
      match skipQuoted c (s.length + 1) (c :: out) s with
      | some (out, s) => untilClosed opening closing fuel depth out s
      | none => none
    else untilClosed opening closing fuel depth (c :: out) s

/-- The operators on parameters, the long ones first. -/
def parameterOperators : List (List Char) :=
  [[':', '-'], [':', '='], [':', '+'], [':', '?'], ['#', '#'], ['%', '%'], ['-'], ['='], ['+'], ['?'], ['#'], ['%']]

/-- The name at the start of a parameter, and the rest. -/
def parameterName? : List Char → Option (String × List Char)
  | [] => none
  | c :: s =>
    if isNameStart c then
      let name := (c :: s).takeWhile isNameChar
      some (.ofList name, (c :: s).drop name.length)
    else if c.isDigit then
      let name := (c :: s).takeWhile Char.isDigit
      some (.ofList name, (c :: s).drop name.length)
    else if isSpecialParameter c then some (.ofList [c], s)
    else none

/-- A parameter in braces. -/
def braced? (quoted : Bool) (s : List Char) : Option Piece :=
  match s with
  | '#' :: c :: rest => do
    let (name, tail) ← parameterName? (c :: rest)
    if tail.isEmpty then return .length quoted name else none
  | s => do
    let (name, tail) ← parameterName? s
    if tail.isEmpty then return .parameter quoted name [] []
    else
      let op ← parameterOperators.find? fun op => tail.take op.length = op
      return .parameter quoted name op (tail.drop op.length)

/-- The piece after a dollar sign, and the rest. -/
def afterDollar (quoted : Bool) (s : List Char) : Option (Piece × List Char) :=
  match s with
  | '(' :: '(' :: rest => do
    let (expr, rest) ← untilClosed '(' ')' (rest.length + 1) 0 [] rest
    match rest with
    | ')' :: rest => return (.arithmetic quoted expr, rest)
    | _ => none
  | '(' :: rest => do
    let (script, rest) ← untilClosed '(' ')' (rest.length + 1) 0 [] rest
    return (.command quoted script, rest)
  | '{' :: rest => do
    let (inside, rest) ← untilClosed '{' '}' (rest.length + 1) 0 [] rest
    return (← braced? quoted inside, rest)
  | c :: rest =>
    if isNameStart c then do
      let (name, rest) ← parameterName? (c :: rest)
      return (.parameter quoted name [] [], rest)
    else if isSpecialParameter c then some (.parameter quoted (.ofList [c]) [] [], rest)
    else some (.text quoted ['$'], c :: rest)
  | [] => some (.text quoted ['$'], [])

/-- A command in backquotes, whose output is in reverse. -/
def backquoted? : Nat → List Char → List Char → Option (List Char × List Char)
  | 0, _, _ => none
  | _ + 1, _, [] => none
  | _ + 1, out, '`' :: s => some (out.reverse, s)
  | fuel + 1, out, '\\' :: c :: s =>
    if c = '`' || c = '\\' || c = '$' then backquoted? fuel (c :: out) s else backquoted? fuel (c :: '\\' :: out) s
  | fuel + 1, out, c :: s => backquoted? fuel (c :: out) s

/-- Adds a character to the pieces. -/
def addChar (quoted : Bool) (c : Char) : Word → Word
  | .text q s :: w => if q = quoted then .text q (c :: s) :: w else .text quoted [c] :: .text q s :: w
  | w => .text quoted [c] :: w

/-- The pieces up to a closing double quote, and the rest. -/
def inDouble : Nat → List Char → Option (Word × List Char)
  | 0, _ => none
  | _ + 1, [] => none
  | _ + 1, '"' :: s => some ([], s)
  | fuel + 1, '\\' :: c :: s => do
    let (w, rest) ← inDouble fuel s
    if c = '\n' then return (w, rest)
    else if ['$', '`', '"', '\\'].contains c then return (addChar true c w, rest)
    else return (addChar true '\\' (addChar true c w), rest)
  | fuel + 1, '$' :: s => do
    let (p, s) ← afterDollar true s
    let (w, rest) ← inDouble fuel s
    return (p :: w, rest)
  | fuel + 1, '`' :: s => do
    let (script, s) ← backquoted? (s.length + 1) [] s
    let (w, rest) ← inDouble fuel s
    return (.command true script :: w, rest)
  | fuel + 1, c :: s => do
    let (w, rest) ← inDouble fuel s
    return (addChar true c w, rest)

/-- Quoted pieces make a word even when they are empty, but for the list of all arguments. -/
def markQuoted (w : Word) : Word := if w = [.parameter true "@" [] []] then w else .text true [] :: w

/-- The pieces of a word up to a character that ends it. -/
def word? (ends : Char → Bool) : Nat → List Char → Option (Word × List Char)
  | 0, _ => none
  | _ + 1, [] => some ([], [])
  | fuel + 1, '\'' :: s => do
    let body := s.takeWhile (· ≠ '\'')
    match s.drop body.length with
    | _ :: s => do
      let (w, rest) ← word? ends fuel s
      return (.text true body :: w, rest)
    | [] => none
  | fuel + 1, '"' :: s => do
    let (inside, s) ← inDouble (s.length + 1) s
    let (w, rest) ← word? ends fuel s
    return (markQuoted inside ++ w, rest)
  | fuel + 1, '\\' :: c :: s => do
    let (w, rest) ← word? ends fuel s
    if c = '\n' then return (w, rest) else return (.text true [c] :: w, rest)
  | fuel + 1, '$' :: s => do
    let (p, s) ← afterDollar false s
    let (w, rest) ← word? ends fuel s
    return (p :: w, rest)
  | fuel + 1, '`' :: s => do
    let (script, s) ← backquoted? (s.length + 1) [] s
    let (w, rest) ← word? ends fuel s
    return (.command false script :: w, rest)
  | fuel + 1, c :: s =>
    if ends c then some ([], c :: s)
    else do
      let (w, rest) ← word? ends fuel s
      return (addChar false c w, rest)

/-- A whole text as the pieces of one word. -/
def wholeWord (s : List Char) : Word := ((word? (fun _ => false) (s.length + 1) s).map Prod.fst).getD [.text true s]

end AgentTrial.Shell
