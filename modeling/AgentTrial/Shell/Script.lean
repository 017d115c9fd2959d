import AgentTrial.Shell.Word

/-!
# Script — what a shell is told to do

A script is read in two steps: characters become words and marks, and these become commands.
-/

namespace AgentTrial.Shell

/-- What a redirection does. -/
inductive RedirectKind
  | read
  | write
  | append
  | duplicate
  deriving Repr, DecidableEq

/-- A redirection of a channel: 0 is the input, 1 the output and 2 the errors. -/
structure Redirect where
  channel : Nat
  kind : RedirectKind
  target : Word
  deriving Repr

/-- What a shell is told to do. -/
inductive Script
  | nothing
  | simple (assigns : List (String × Word)) (words : List Word) (redirects : List Redirect)
  | pipe (left right : Script)
  | negate (s : Script)
  | both (left right : Script)
  | either (left right : Script)
  | seq (left right : Script)
  | choose (test yes no : Script)
  /-- Runs the body while the test ends as wanted. -/
  | loop (wanted : Bool) (test body : Script)
  | forEach (name : String) (words : Option (List Word)) (body : Script)
  | select (subject : Word) (arms : List (List Word × Script))
  | subshell (body : Script)
  | redirected (body : Script) (redirects : List Redirect)
  deriving Inhabited

/-! ## Tokens -/

/-- A token of a script. -/
inductive Token
  | word (w : Word)
  | mark (s : String)
  | redirect (channel : Nat) (kind : RedirectKind)
  deriving Repr, DecidableEq

/-- A redirection at the start of a text. -/
def redirect? (channel : Option Nat) : List Char → Option (Token × List Char)
  | '>' :: '>' :: s => some (.redirect (channel.getD 1) .append, s)
  | '>' :: '&' :: s => some (.redirect (channel.getD 1) .duplicate, s)
  | '<' :: '&' :: s => some (.redirect (channel.getD 0) .duplicate, s)
  | '>' :: '|' :: s => some (.redirect (channel.getD 1) .write, s)
  | '>' :: s => some (.redirect (channel.getD 1) .write, s)
  | '<' :: '<' :: _ => none
  | '<' :: s => some (.redirect (channel.getD 0) .read, s)
  | _ => none

/-- A mark at the start of a text. -/
def mark? : List Char → Option (String × List Char)
  | '&' :: '&' :: s => some ("&&", s)
  | '|' :: '|' :: s => some ("||", s)
  | ';' :: ';' :: s => some (";;", s)
  | c :: s => if [';', '&', '|', '(', ')', '\n'].contains c then some (.ofList [c], s) else none
  | [] => none

/-- The tokens of a script. -/
def tokens : Nat → List Char → Option (List Token)
  | 0, _ => none
  | _ + 1, [] => some []
  | fuel + 1, c :: s =>
    if c = ' ' || c = '\t' then tokens fuel s
    else if c = '#' then tokens fuel (s.dropWhile (· ≠ '\n'))
    else
      match c, s with
      | '\\', '\n' :: s => tokens fuel s
      | c, s =>
        match mark? (c :: s) with
        | some (m, s) => (.mark m :: ·) <$> tokens fuel s
        | none =>
          let channel := match c.isDigit, s with
            | true, '<' :: _ => some (c.toNat - '0'.toNat)
            | true, '>' :: _ => some (c.toNat - '0'.toNat)
            | _, _ => none
          match redirect? channel (if channel.isSome then s else c :: s) with
          | some (t, s) => (t :: ·) <$> tokens fuel s
          | none => do
            let (w, s) ← word? endsWord (s.length + 2) (c :: s)
            if w.isEmpty && s.head? = some c then none else (.word w :: ·) <$> tokens fuel s

/-! ## Commands -/

/-- The words that have a meaning of their own at the start of a command. -/
def reservedWords : List String :=
  ["if", "then", "elif", "else", "fi", "for", "do", "done", "case", "esac", "while", "until", "\x7b", "\x7d", "!"]

/-- The reserved word of a token. -/
def Token.reserved? : Token → Option String
  | .word [.text false s] => reservedWords.find? (·.toList = s)
  | _ => none

/-- Does a token end a list of commands? -/
def Token.endsList : Token → Bool
  | .mark m => m = ")" || m = ";;"
  | t => (t.reserved?).any fun r => ["then", "elif", "else", "fi", "do", "done", "esac", "\x7d"].contains r

/-- Reads tokens into something. -/
abbrev Parse (α : Type) := StateT (List Token) Option α

/-- The next token, which stays. -/
def peek : Parse (Option Token) := return (← get).head?

/-- Drops the next token. -/
def skip : Parse Unit := modify List.tail

/-- Drops a reserved word that has to be there. -/
def expect (r : String) : Parse Unit := do
  match ← get with
  | t :: ts => if t.reserved? = some r then set ts else failure
  | [] => failure

/-- Drops a mark that has to be there. -/
def expectMark (m : String) : Parse Unit := do
  match ← get with
  | t :: ts => if t = .mark m then set ts else failure
  | [] => failure

/-- Drops line ends. -/
def skipNewlines : Parse Unit := modify fun ts => ts.dropWhile (· = .mark "\n")

/-- A word. -/
def oneWord : Parse Word := do
  match ← get with
  | .word w :: ts =>
    set ts
    return w
  | _ => failure

/-- The words up to the next token that is none. -/
def someWords : Parse (List Word) := do
  let ts ← get
  let ws := ts.map fun | .word w => some w | _ => none
  let n := (ws.takeWhile Option.isSome).length
  set (ts.drop n)
  return (ws.take n).filterMap id

/-- The redirections that come next. -/
def redirects : Nat → Parse (List Redirect)
  | 0 => return []
  | fuel + 1 => do
    match ← get with
    | .redirect channel kind :: .word w :: ts =>
      set ts
      return ⟨channel, kind, w⟩ :: (← redirects fuel)
    | _ => return []

/-- The assignment that a word is. -/
def assignment? : Word → Option (String × Word)
  | .text false s :: rest => do
    let name := s.takeWhile isNameChar
    match name, s.drop name.length with
    | c :: _, '=' :: value => if isNameStart c then return (.ofList name, .text false value :: rest) else none
    | _, _ => none
  | _ => none

/-- A simple command: assignments, words and redirections. -/
def simple : Nat → List (String × Word) → List Word → List Redirect → Parse Script
  | 0, _, _, _ => failure
  | fuel + 1, assigns, words, rs => do
    match ← get with
    | .word w :: ts =>
      set ts
      match words, assignment? w with
      | [], some a => simple fuel (assigns ++ [a]) [] rs
      | _, _ => simple fuel assigns (words ++ [w]) rs
    | .redirect channel kind :: .word w :: ts =>
      set ts
      simple fuel assigns words (rs ++ [⟨channel, kind, w⟩])
    | _ => if assigns.isEmpty && words.isEmpty && rs.isEmpty then failure else return .simple assigns words rs

/-- The patterns of an arm, up to its bracket. -/
def armPatterns : Nat → Parse (List Word)
  | 0 => failure
  | fuel + 1 => do
    let w ← oneWord
    match ← get with
    | .mark "|" :: ts =>
      set ts
      return w :: (← armPatterns fuel)
    | .mark ")" :: ts =>
      set ts
      return [w]
    | _ => failure

mutual

/-- Commands one after another, up to a token that ends them. -/
def list : Nat → Parse Script
  | 0 => failure
  | fuel + 1 => do
    match ← get with
    | [] => return .nothing
    | .mark "\n" :: ts =>
      set ts
      list fuel
    | t :: _ =>
      if t.endsList then return .nothing
      else
        let left ← andOr fuel
        match ← get with
        | .mark m :: ts =>
          if m = ";" || m = "&" || m = "\n" then
            set ts
            return .seq left (← list fuel)
          else if m = ")" || m = ";;" then return left
          else failure
        | [] => return left
        | t :: _ => if t.endsList then return left else failure
termination_by structural fuel => fuel

/-- Commands that depend on how the ones before them ended. -/
def andOr : Nat → Parse Script
  | 0 => failure
  | fuel + 1 => do
    andOrAfter fuel (← pipeline fuel)
termination_by structural fuel => fuel

/-- What depends on a command. -/
def andOrAfter : Nat → Script → Parse Script
  | 0, _ => failure
  | fuel + 1, left => do
    match ← get with
    | .mark "&&" :: ts =>
      set ts
      skipNewlines
      andOrAfter fuel (.both left (← pipeline fuel))
    | .mark "||" :: ts =>
      set ts
      skipNewlines
      andOrAfter fuel (.either left (← pipeline fuel))
    | _ => return left
termination_by structural fuel => fuel

/-- Commands that feed one another. -/
def pipeline : Nat → Parse Script
  | 0 => failure
  | fuel + 1 => do
    match ← get with
    | t :: ts =>
      if t.reserved? = some "!" then
        set ts
        return .negate (← pipeline fuel)
      else
        let left ← command fuel
        match ← get with
        | .mark "|" :: ts =>
          set ts
          skipNewlines
          return .pipe left (← pipeline fuel)
        | _ => return left
    | [] => failure
termination_by structural fuel => fuel

/-- One command. -/
def command : Nat → Parse Script
  | 0 => failure
  | fuel + 1 => do
    let ts ← get
    let around (body : Script) : Parse Script := do
      let rs ← redirects ts.length
      return if rs.isEmpty then body else .redirected body rs
    match ts with
    | .mark "(" :: rest =>
      set rest
      let body ← list fuel
      expectMark ")"
      around (.subshell body)
    | t :: rest =>
      match t.reserved? with
      | some "if" =>
        set rest
        around (← conditional fuel)
      | some "while" =>
        set rest
        let test ← list fuel
        around (.loop true test (← body fuel))
      | some "until" =>
        set rest
        let test ← list fuel
        around (.loop false test (← body fuel))
      | some "for" =>
        set rest
        around (← forLoop fuel)
      | some "case" =>
        set rest
        let subject ← oneWord
        skipNewlines
        let _ ← oneWord
        around (.select subject (← arms fuel))
      | some r =>
        if r = "\x7b" then do
          set rest
          let inside ← list fuel
          expect "\x7d"
          around inside
        else failure
      | none => simple (ts.length + 1) [] [] []
    | [] => failure
termination_by structural fuel => fuel

/-- The rest of a condition. -/
def conditional : Nat → Parse Script
  | 0 => failure
  | fuel + 1 => do
    let test ← list fuel
    expect "then"
    let yes ← list fuel
    match ← get with
    | t :: ts =>
      set ts
      match t.reserved? with
      | some "fi" => return .choose test yes .nothing
      | some "else" =>
        let no ← list fuel
        expect "fi"
        return .choose test yes no
      | some "elif" => return .choose test yes (← conditional fuel)
      | _ => failure
    | [] => failure
termination_by structural fuel => fuel

/-- The body of a loop. -/
def body : Nat → Parse Script
  | 0 => failure
  | fuel + 1 => do
    expect "do"
    let inside ← list fuel
    expect "done"
    return inside
termination_by structural fuel => fuel

/-- The rest of a loop over words. -/
def forLoop : Nat → Parse Script
  | 0 => failure
  | fuel + 1 => do
    match ← oneWord with
    | [.text false name] =>
      skipNewlines
      let words ← match ← get with
        | .word [.text false ['i', 'n']] :: ts => do
          set ts
          some <$> someWords
        | _ => pure none
      modify fun ts => ts.dropWhile fun t => t = .mark ";" || t = .mark "\n"
      return .forEach (.ofList name) words (← body fuel)
    | _ => failure
termination_by structural fuel => fuel

/-- The arms of a selection. -/
def arms : Nat → Parse (List (List Word × Script))
  | 0 => failure
  | fuel + 1 => do
    skipNewlines
    match ← get with
    | t :: ts =>
      if t.reserved? = some "esac" then
        set ts
        return []
      else
        if t = .mark "(" then set ts
        let patterns ← armPatterns (ts.length + 1)
        let inside ← list fuel
        match ← get with
        | .mark ";;" :: ts =>
          set ts
          return (patterns, inside) :: (← arms fuel)
        | _ =>
          expect "esac"
          return [(patterns, inside)]
    | [] => failure
termination_by structural fuel => fuel

end

/-- Why a text is no script. -/
inductive SyntaxError
  /-- A quote or a bracket is not closed. -/
  | unterminated
  /-- The commands do not end where the text does. -/
  | unexpectedEnd
  deriving Repr, DecidableEq

/-- The sentence for a text that is no script. -/
def SyntaxError.message : SyntaxError → String
  | unterminated => "Syntax error: Unterminated quoted string"
  | unexpectedEnd => "Syntax error: end of file unexpected"

/-- Reads a script. -/
def Script.ofChars (s : List Char) : Except SyntaxError Script :=
  match tokens (s.length + 1) s with
  | none => .error .unterminated
  | some ts =>
    match (list (8 * ts.length + 8)).run ts with
    | some (script, []) => .ok script
    | _ => .error .unexpectedEnd

end AgentTrial.Shell
