import AgentTrial.Shell.Condition
import AgentTrial.Shell.Field
import AgentTrial.Shell.Tool

/-!
# Run — what scripts do

Words are expanded to fields, the first field names a command, and the command is one of the shell itself or a tool.
The recursion is bounded by a number of steps; a script that needs more of them takes too long.
-/

namespace AgentTrial.Shell

/-! ## Steps without scripts inside -/

/-- Leaves the shell after a failure, if that is asked for. -/
def leaveOnFailure : Act Unit := do
  let s ← get
  if s.status != 0 && !s.asked && s.options.contains 'e' then throw .shell

/-- Acts, and puts the channels back. -/
def keepingChannels (ownInput : Bool) (act : Act Unit) : Act Unit := fun s =>
  let (r, t) := act s
  (r, { t with out := s.out, err := s.err, input := if ownInput then s.input else t.input })

/-- Acts with variables set for its time. -/
def withVars (assigned : Table String) (act : Act Unit) : Act Unit := fun s =>
  let (r, t) := act (assigned.foldl (fun u (name, value) => (u.setVar name value).publish name) s)
  let restore (u : Session) (name : String) : Session :=
    let v := match s.var? name with
      | some value => u.setVar name value
      | none => u.unsetVar name
    if s.exported.contains name then v else { v with exported := v.exported.filter (· != name) }
  (r, (assigned.map Prod.fst).foldl restore t)

/-- Points a channel somewhere. -/
def point (channel : Nat) (target : Channel) : Act Unit :=
  modify fun s =>
    if channel = 1 then { s with out := target } else if channel = 2 then { s with err := target } else s

/-- Opens a file for writing. -/
def openFile (append : Bool) (path : String) : Act (Except StoreError Location) := do
  let s ← get
  let opened : Except StoreError (Store × Location) := do
    let old := match s.store.read s.place path with
      | .ok data => data
      | .error _ => .empty
    let store ← s.store.write s.place path (if append then old else .empty)
    return (store, ← store.locate s.place path)
  match opened with
  | .ok (store, place) =>
    set { s with store }
    return .ok place
  | .error e => return .error e

/-- Follows a redirection, and says whether it could. -/
def redirect (channel : Nat) (kind : RedirectKind) (target : String) : Act Bool := do
  match kind with
  | .read =>
    let s ← get
    match s.store.read s.place target with
    | .ok data =>
      if channel = 0 then set { s with input := data }
      return true
    | .error .isDirectory =>
      if channel = 0 then set { s with input := .empty }
      return true
    | .error .outOfMemory => throw .endless
    | .error e =>
      warn ("cannot open " ++ target ++ ": " ++ if e = .notFound then "No such file" else e.reason)
      return false
  | .duplicate =>
    let s ← get
    match target with
    | "1" => point channel s.out
    | "2" => point channel s.err
    | "-" =>
      point channel .closed
      if channel = 0 then set { s with input := .empty }
    | _ => pure ()
    return true
  | kind =>
    match ← openFile (kind = .append) target with
    | .ok place =>
      point channel (.file place)
      return true
    | .error e =>
      warn ("cannot create " ++ target ++ ": " ++ if e = .notFound then "Directory nonexistent" else e.reason)
      return false

/-- The characters of a value. -/
def valueMarks (quoted : Bool) (value : String) : List Mark :=
  value.toList.map fun c => .glyph ⟨c, quoted⟩ (!quoted)

/-- The characters of several values, one field each. -/
def severalMarks (quoted : Bool) (values : List String) : List Mark :=
  let each := values.map fun v => if quoted then .present :: valueMarks true v else valueMarks false v
  (each.intersperse [.cut]).flatten

/-- A value without its start or end that matches a pattern. -/
def trimmed (op : List Char) (p : List Glyph) (value : List Char) : List Char :=
  let starts := matchingStarts p value
  let ends := matchingEnds p value
  match op with
  | ['#'] => value.drop ((starts.head?).getD 0)
  | ['#', '#'] => value.drop ((starts.getLast?).getD 0)
  | ['%'] => value.take ((ends.getLast?).getD value.length)
  | _ => value.take ((ends.head?).getD value.length)

/-- The text of an output, without the line ends after it. -/
def outputText (data : ByteArray) : String :=
  let s := (Lossy.decode data).toList.filter (· != '\x00')
  .ofList (s.reverse.dropWhile (· = '\n')).reverse

/-- Has a word a command in it? -/
def hasCommand (w : Word) : Bool := w.any fun | .command .. => true | _ => false

/-! ## The shell's own commands -/

/-- Shows words in a line, as the shell does. -/
def ownEcho (args : List String) : Act Unit := do
  finish 0
  match args with
  | "-n" :: words => say (echoEscaped .shell false words)
  | words => say (echoEscaped .shell true words)

/-- Shows arguments in a format, as the shell does. -/
def ownPrintf (args : List String) : Act Unit := do
  finish 0
  match (match args with | "--" :: args => args | args => args) with
  | [] =>
    warn "printf: usage: printf format [arg ...]"
    finish 2
  | format :: args =>
    let (out, complaints) := formatted .shell format args
    say out
    for line in complaints do
      warn ("printf: " ++ line)
      finish 1

/-- Tests a condition. -/
def ownTest (name : String) (words : List String) : Act Unit := do
  let s ← get
  match testWords s.store s.place words with
  | .ok v => finish (if v then 0 else 1)
  | .error e =>
    warn (name ++ ": " ++ e.message)
    finish 2

/-- A number that a command of the shell takes, with a default. -/
def ownNumber (name : String) (args : List String) (otherwise : Nat) : Act Nat := do
  match args with
  | [] => return otherwise
  | a :: _ =>
    match a.toNat? with
    | some n => return n
    | none => giveUp (name ++ ": Illegal number: " ++ a)

/-- The name and the value of an assignment. -/
def splitAssignment (a : String) : String × Option String :=
  let name := a.toList.takeWhile (· ≠ '=')
  (.ofList name, if name.length < a.length then some (.ofList (a.toList.drop (name.length + 1))) else none)

/-- Sets options and arguments. -/
def ownSet (args : List String) : Act Unit := do
  finish 0
  match args with
  | [] => pure ()
  | "--" :: rest => modify fun s => { s with args := rest }
  | a :: rest =>
    match a.toList with
    | '-' :: letters =>
      modify fun s => { s with options := s.options ++ letters.filter fun c => !s.options.contains c }
      if !rest.isEmpty then modify fun s => { s with args := if rest.head? = some "--" then rest.tail else rest }
    | '+' :: letters =>
      modify fun s => { s with options := s.options.filter fun c => !letters.contains c }
      if !rest.isEmpty then modify fun s => { s with args := rest }
    | _ => modify fun s => { s with args }

/-- The number of a signal. -/
def signal? (name : String) : Option Nat :=
  let name := name.toUpper
  let name := if name.startsWith "SIG" then (name.drop 3).toString else name
  match name with
  | "HUP" => some 1
  | "INT" => some 2
  | "QUIT" => some 3
  | "ABRT" => some 6
  | "KILL" => some 9
  | "USR1" => some 10
  | "SEGV" => some 11
  | "USR2" => some 12
  | "PIPE" => some 13
  | "ALRM" => some 14
  | "TERM" => some 15
  | _ => name.toNat?

/-- Sends a signal. -/
def ownKill (args : List String) : Act Unit := do
  finish 0
  let (signal, targets) := match args with
    | "-s" :: name :: rest => (signal? name, rest)
    | a :: rest =>
      match a.toList with
      | '-' :: name => (signal? (.ofList name), rest)
      | _ => (some 15, a :: rest)
    | [] => (some 15, [])
  match signal with
  | none => giveUp "kill: invalid signal number or name"
  | some n =>
    for target in targets do
      let s ← get
      if target = toString s.process then
        if n != 0 then throw (.killed s.process n)
      else
        warn "kill: No such process\n"
        finish 1

/-- Splits a line for variables: the last of them takes the rest. -/
def splitLine (separators : List Char) : Nat → List Char → List (List Char)
  | 0, _ => []
  | 1, s =>
    let s := s.dropWhile separators.contains
    [(s.reverse.dropWhile separators.contains).reverse]
  | n + 2, s =>
    let s := s.dropWhile separators.contains
    let word := s.takeWhile fun c => !separators.contains c
    word :: splitLine separators (n + 1) (s.drop word.length)

/-- Reads a line into variables. -/
def ownRead (args : List String) : Act Unit := do
  let (raw, names) := match args with
    | "-r" :: names => (true, names)
    | names => (false, names)
  let s ← get
  let bytes := s.input.toList
  let line := bytes.takeWhile (· ≠ 10)
  let ended := line.length < bytes.length
  set { s with input := ⟨(bytes.drop (line.length + 1)).toArray⟩ }
  let text := (Lossy.decode ⟨line.toArray⟩).toList
  let text := if raw then text else text.filter (· != '\\')
  for (name, value) in names.zip (splitLine s.separators names.length text) do
    modify fun s => s.setVar name (.ofList value)
  finish (if ended then 0 else 1)

/-- Changes the working directory. -/
def ownCd (args : List String) : Act Unit := do
  finish 0
  let s ← get
  match args with
  | [] => pure ()
  | path :: _ =>
    match s.store.locate s.place path with
    | .ok place =>
      if (s.store.look? place).any Entry.isDirectory then set { s with place, status := 0 }
      else
        warn ("cd: can't cd to " ++ path)
        finish 2
    | .error _ =>
      warn ("cd: can't cd to " ++ path)
      finish 2

/-- A command of the shell that runs no other. -/
def ownCommand? (name : String) (args : List String) : Option (Act Unit) :=
  match name with
  | ":" => some (finish 0)
  | "true" => some (finish 0)
  | "false" => some (finish 1)
  | "echo" => some (ownEcho args)
  | "printf" => some (ownPrintf args)
  | "test" => some (ownTest "test" args)
  | "[" => some do
    if args.getLast? = some "]" then ownTest "[" args.dropLast
    else
      warn "[: missing ]"
      finish 2
  | "exit" => some do
    let n ← ownNumber "exit" args (← get).status
    finish (n % 256)
    throw .shell
  | "return" => some do
    let n ← ownNumber "return" args (← get).status
    finish (n % 256)
    throw .shell
  | "break" => some do
    let n ← ownNumber "break" args 1
    finish 0
    throw (.loop n)
  | "continue" => some do
    let n ← ownNumber "continue" args 1
    finish 0
    throw (.round n)
  | "shift" => some do
    let n ← ownNumber "shift" args 1
    if (← get).args.length < n then giveUp "shift: can't shift that many"
    modify fun s => { s with args := s.args.drop n, status := 0 }
  | "cd" => some (ownCd args)
  | "pwd" => some do
    finish 0
    sayText (Store.pathOf (← get).place ++ "\n")
  | "export" => some do
    finish 0
    for a in args do
      let (name, value) := splitAssignment a
      modify fun s => (match value with | some v => s.setVar name v | none => s).publish name
  | "unset" => some do
    finish 0
    for name in args do modify fun s => s.unsetVar name
  | "set" => some (ownSet args)
  | "kill" => some (ownKill args)
  | "read" => some (ownRead args)
  | "wait" => some (finish 0)
  | "trap" => some (finish 0)
  | "umask" => some (finish 0)
  | _ => none

/-- The commands after which assignments stay. -/
def keepsAssignments (name : String) : Bool :=
  [":", "break", "continue", "eval", "exec", "exit", "export", "return", "set", "shift", "trap", "unset"].contains name

/-- What a process says when a signal ends one that it started. -/
def signalText? : Nat → Option String
  | 1 => some "Hangup"
  | 6 => some "Aborted"
  | 9 => some "Killed"
  | 11 => some "Segmentation fault"
  | 15 => some "Terminated"
  | _ => none

/-- Acts as a process that sees the exported variables alone. -/
def asProcess (act : Act Unit) : Act Unit := do
  let s ← get
  let number := s.process + 1
  let (r, t) := act { s with vars := s.environment, process := number, status := 0, options := [], asked := false }
  let after := { s with store := t.store, buffers := t.buffers, input := t.input, status := t.status }
  set after
  match r with
  | .error .endless => throw .endless
  | .error (.killed p n) =>
    if p = number then
      if let some text := signalText? n then complain text
      finish (128 + n)
    else throw (.killed p n)
  | _ => pure ()

/-! ## Scripts -/

mutual

/-- Runs a script. -/
def run : Nat → Script → Act Unit
  | 0, _ => throw .endless
  | fuel + 1, script =>
    match script with
    | .nothing => pure ()
    | .simple assigns words redirects => do
      simpleCommand fuel assigns words redirects
      leaveOnFailure
    | .pipe left right => do
      let data ← captured (inSubshell (run fuel left))
      fed data (inSubshell (run fuel right))
      leaveOnFailure
    | .negate s => do
      asking (run fuel s)
      finish (if (← get).status = 0 then 1 else 0)
    | .both left right => do
      asking (run fuel left)
      if (← get).status = 0 then run fuel right
    | .either left right => do
      asking (run fuel left)
      if (← get).status != 0 then run fuel right
    | .seq left right => do
      run fuel left
      run fuel right
    | .choose test yes no => do
      asking (run fuel test)
      if (← get).status = 0 then run fuel yes
      else
        finish 0
        run fuel no
    | .loop wanted test body => rounds fuel wanted test body 0
    | .forEach name words body => do
      let values ← match words with
        | some ws => fieldsOf fuel ws
        | none => pure (← get).args
      finish 0
      eachOf fuel name body values
    | .select subject arms => do
      let text ← textOf fuel subject
      selected fuel text.toList arms
    | .subshell body => do
      inSubshell (run fuel body)
      leaveOnFailure
    | .redirected body redirects => withRedirects fuel redirects (run fuel body)
termination_by structural fuel => fuel

/-- Runs the rounds of a loop.  The status is that of the last round. -/
def rounds : Nat → Bool → Script → Script → Nat → Act Unit
  | 0, _, _, _, _ => throw .endless
  | fuel + 1, wanted, test, body, last => do
    asking (run fuel test)
    if ((← get).status = 0) = wanted then
      let goesOn ← asRound (run fuel body)
      if goesOn then rounds fuel wanted test body (← get).status
    else finish last
termination_by structural fuel => fuel

/-- Runs the rounds of a loop over values. -/
def eachOf : Nat → String → Script → List String → Act Unit
  | 0, _, _, _ => throw .endless
  | _ + 1, _, _, [] => pure ()
  | fuel + 1, name, body, v :: vs => do
    modify fun s => s.setVar name v
    let goesOn ← asRound (run fuel body)
    if goesOn then eachOf fuel name body vs
termination_by structural fuel => fuel

/-- Runs the first arm with a pattern that matches. -/
def selected : Nat → List Char → List (List Word × Script) → Act Unit
  | 0, _, _ => throw .endless
  | _ + 1, _, [] => finish 0
  | fuel + 1, text, (patterns, body) :: arms => do
    let glyphs ← patterns.mapM fun p => marksOf fuel p
    if glyphs.any fun ms => glyphsMatch (glyphsOfMarks ms) text then
      finish 0
      run fuel body
    else selected fuel text arms
termination_by structural fuel => fuel

/-- Acts with redirections, unless one of them fails. -/
def withRedirects : Nat → List Redirect → Act Unit → Act Unit
  | 0, _, _ => throw .endless
  | fuel + 1, redirects, act =>
    keepingChannels (redirects.any fun r => r.channel = 0) (redirectAll fuel redirects act)
termination_by structural fuel => fuel

/-- Follows redirections, and acts after them. -/
def redirectAll : Nat → List Redirect → Act Unit → Act Unit
  | 0, _, _ => throw .endless
  | _ + 1, [], act => act
  | fuel + 1, r :: rs, act => do
    let target ← textOf fuel r.target
    if ← redirect r.channel r.kind target then redirectAll fuel rs act else finish 2
termination_by structural fuel => fuel

/-- Runs a simple command. -/
def simpleCommand : Nat → List (String × Word) → List Word → List Redirect → Act Unit
  | 0, _, _, _ => throw .endless
  | fuel + 1, assigns, words, redirects => do
    let fields ← fieldsOf fuel words
    match fields with
    | [] =>
      for (name, w) in assigns do
        let value ← textOf fuel w
        modify fun s => s.setVar name value
      if !(words.any hasCommand || assigns.any fun (_, w) => hasCommand w) then finish 0
      withRedirects fuel redirects (pure ())
    | name :: args =>
      let assigned ← assigns.mapM fun (name, w) => return (name, ← textOf fuel w)
      if name = "exec" && args.isEmpty then
        finish 0
        redirectAll fuel redirects (pure ())
      else
        withRedirects fuel redirects do
          if keepsAssignments name then
            for (n, v) in assigned do modify fun s => s.setVar n v
            invoke fuel name args
          else if assigned.isEmpty then invoke fuel name args
          else withVars assigned (invoke fuel name args)
termination_by structural fuel => fuel

/-- Runs a command with its arguments. -/
def invoke : Nat → String → List String → Act Unit
  | 0, _, _ => throw .endless
  | fuel + 1, name, args =>
    match ownCommand? name args with
    | some act => act
    | none =>
      match name, args with
      | "eval", args => do
        finish 0
        runText fuel (" ".intercalate args).toList
      | "command", name :: args => invoke fuel name args
      | "exec", name :: args => do
        invokeTool fuel name args
        throw .shell
      | name, args => invokeTool fuel name args
termination_by structural fuel => fuel

/-- Runs a tool with its arguments. -/
def invokeTool : Nat → String → List String → Act Unit
  | 0, _, _ => throw .endless
  | fuel + 1, name, args => do
    let s ← get
    let found := if name.toList.contains '/' then Tool.ofPath? name else some name
    match found with
    | none =>
      if s.store.has s.place name then
        warn (name ++ ": Permission denied")
        finish 126
      else
        warn (name ++ ": not found")
        finish 127
    | some tool =>
      if tool = "sh" then asProcess (shell fuel args)
      else
        match Tool.byName? tool with
        | some act => act args
        | none =>
          warn (name ++ ": not found")
          finish 127
termination_by structural fuel => fuel

/-- Runs a shell with its arguments. -/
def shell : Nat → List String → Act Unit
  | 0, _ => throw .endless
  | fuel + 1, args => do
    let options := args.takeWhile fun a => match a.toList with | '-' :: _ :: _ => true | _ => false
    let letters := options.flatMap fun a => a.toList.filter (· != '-')
    let rest := args.drop options.length
    modify fun s => { s with name := "sh", args := [], options := letters.filter fun c => c != 'c' && c != 's' }
    if letters.contains 'c' then
      match rest with
      | [] =>
        complain "sh: 0: -c requires an argument"
        finish 2
      | script :: rest =>
        modify fun s => { s with name := (rest.head?).getD "sh", args := rest.tail }
        runText fuel script.toList
    else
      match rest with
      | [] => runText fuel (Lossy.decode (← readAll)).toList
      | path :: rest =>
        let s ← get
        match s.store.read s.place path with
        | .ok data =>
          set { s with name := path, args := rest }
          runText fuel (Lossy.decode data).toList
        | .error e =>
          complain ("sh: 0: cannot open " ++ path ++ ": " ++ if e = .notFound then "No such file" else e.reason)
          finish 2
termination_by structural fuel => fuel

/-- Runs the text of a script. -/
def runText : Nat → List Char → Act Unit
  | 0, _ => throw .endless
  | fuel + 1, text =>
    match Script.ofChars text with
    | .ok script => run fuel script
    | .error e => giveUp e.message
termination_by structural fuel => fuel

/-- What a piece of a word expands to. -/
def pieceMarks : Nat → Piece → Act (List Mark)
  | 0, _ => throw .endless
  | fuel + 1, piece =>
    match piece with
    | .text quoted s =>
      return if quoted && s.isEmpty then [.present] else s.map fun c => .glyph ⟨c, quoted⟩ false
    | .length quoted name => do
      let s ← get
      let n := if name = "@" || name = "*" then s.args.length else ((s.parameter? name).getD "").length
      return valueMarks quoted (toString n)
    | .command quoted script => do
      let data ← captured (inSubshell (runText fuel script))
      return valueMarks quoted (outputText data)
    | .arithmetic quoted expr => do
      let text ← textOf fuel (wholeWord expr)
      match calculate (← get).vars text.toList with
      | .ok (n, vars) =>
        modify fun s => { s with vars }
        return valueMarks quoted (toString n)
      | .error e => giveUp (e.message text)
    | .parameter quoted name op arg => parameterMarks fuel quoted name op arg
termination_by structural fuel => fuel

/-- What a parameter expands to. -/
def parameterMarks : Nat → Bool → String → List Char → List Char → Act (List Mark)
  | 0, _, _, _, _ => throw .endless
  | fuel + 1, quoted, name, op, arg => do
    let s ← get
    let value := s.parameter? name
    let isList := name = "@" || (name = "*" && !quoted)
    let own : List Mark := if isList then severalMarks quoted s.args else valueMarks quoted (value.getD "")
    let isUnset := value.isNone || (op.head? = some ':' && value = some "")
    let argMarks : Act (List Mark) := do
      let ms ← marksOf fuel (wholeWord arg)
      return if quoted then ms.map fun | .glyph g _ => .glyph ⟨g.char, true⟩ false | m => m else ms
    match op.filter (· ≠ ':') with
    | [] =>
      if value.isNone && !isList && s.options.contains 'u' then giveUp (name ++ ": parameter not set")
      else return own
    | ['-'] => if isUnset then argMarks else return own
    | ['+'] => if isUnset then return [] else argMarks
    | ['='] =>
      if isUnset then
        let text ← textOf fuel (wholeWord arg)
        modify fun s => s.setVar name text
        return valueMarks quoted text
      else return own
    | ['?'] =>
      if isUnset then
        let text ← textOf fuel (wholeWord arg)
        let otherwise := if op.head? = some ':' then "parameter not set or null" else "parameter not set"
        giveUp (name ++ ": " ++ if text.isEmpty then otherwise else text)
      else return own
    | op => do
      let p ← marksOf fuel (wholeWord arg)
      return valueMarks quoted (.ofList (trimmed op (glyphsOfMarks p) (value.getD "").toList))
termination_by structural fuel => fuel

/-- What a word expands to. -/
def marksOf : Nat → Word → Act (List Mark)
  | 0, _ => throw .endless
  | _ + 1, [] => return []
  | fuel + 1, p :: ps => do
    let first ← pieceMarks fuel p
    let rest ← marksOf fuel ps
    return first ++ rest
termination_by structural fuel => fuel

/-- The text of a word that is one field whatever is in it. -/
def textOf : Nat → Word → Act String
  | 0, _ => throw .endless
  | fuel + 1, w => do return textOfGlyphs (glyphsOfMarks (← marksOf fuel w))
termination_by structural fuel => fuel

/-- The fields of words. -/
def fieldsOf : Nat → List Word → Act (List String)
  | 0, _ => throw .endless
  | _ + 1, [] => return []
  | fuel + 1, w :: ws => do
    let ms ← marksOf fuel w
    let s ← get
    let fields := fieldsOfMarks s.separators ms
    let first := fields.flatMap fun f =>
      if s.options.contains 'f' then [textOfGlyphs f] else pathsOfField s.store s.place f
    let rest ← fieldsOf fuel ws
    return first ++ rest
termination_by structural fuel => fuel

end

end AgentTrial.Shell
