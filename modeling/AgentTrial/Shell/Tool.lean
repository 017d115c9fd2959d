import AgentTrial.Shell.Format
import AgentTrial.Shell.Session

/-!
# Tool — the commands in files

The commands that a shell finds on its path.  They work on files and directories, and complain in their own names.
-/

namespace AgentTrial.Shell

/-- The characters of a name that is shown without quotes. -/
def isPlainName (c : Char) : Bool := c.isAlphanum || ['.', '-', '_', '/', ',', '+', '@', ':', '%'].contains c || c ≥ '\x80'

/-- A name in quotes. -/
def quotedName (name : String) : String :=
  if name.toList.contains '\'' then "\"" ++ name ++ "\"" else "'" ++ name ++ "'"

/-- A name in quotes, if it needs them. -/
def shownName (name : String) : String :=
  if name.isEmpty || !name.toList.all isPlainName then quotedName name else name

/-- The letters and the operands among the arguments of a tool; two dashes end the letters. -/
def toolOptions : List String → List Char × List String
  | [] => ([], [])
  | a :: args =>
    match a.toList with
    | ['-', '-'] => ([], args)
    | '-' :: c :: cs =>
      let (letters, operands) := toolOptions args
      (c :: cs ++ letters, operands)
    | _ =>
      let (letters, operands) := toolOptions args
      (letters, a :: operands)

namespace Tool

/-- Complains in the name of a tool, and makes it fail. -/
def object (name line : String) : Act Unit := do
  complain (name ++ ": " ++ line)
  finish 1

/-- Complains about a wrong use of a tool. -/
def misused (name line : String) : Act Unit := do
  object name line
  complain ("Try '" ++ name ++ " --help' for more information.")

/-- Runs a tool with the letters of its options and its operands, if it knows the letters. -/
def withOptions (name : String) (known : List Char) (args : List String) (act : List Char → List String → Act Unit) :
    Act Unit := do
  finish 0
  match args.find? fun a => "--".toList.isPrefixOf a.toList && a != "--" with
  | some a => misused name ("unrecognized option '" ++ a ++ "'")
  | none =>
    let (letters, operands) := toolOptions args
    match letters.find? fun c => !known.contains c with
    | some c => misused name ("invalid option -- '" ++ c.toString ++ "'")
    | none => act letters operands

/-- Changes the files, and says what went wrong. -/
def change (op : Store → Location → Except StoreError Store) : Act (Option StoreError) := do
  let s ← get
  match op s.store s.place with
  | .ok store =>
    set { s with store }
    return none
  | .error e => return some e

/-- Shows files one after another. -/
def cat (args : List String) : Act Unit :=
  withOptions "cat" ['u'] args fun _ operands => do
    for path in if operands.isEmpty then ["-"] else operands do
      if path = "-" then say (← readAll)
      else
        let s ← get
        match s.store.read s.place path with
        | .ok data => say data
        | .error .outOfMemory => throw .endless
        | .error e => object "cat" (shownName path ++ ": " ++ e.reason)

/-- The last name of a path. -/
def lastName (path : String) : String := ((Path.parts path).getLast?).getD path

/-- Copies the entries below a location. -/
def copyBelow (source target : Location) (s : Store) : Store :=
  s.entries.foldl (fun t (place, e) =>
    if source.isPrefixOf place && place != source then t.put (target ++ place.drop source.length) e else t) s

/-- Copies one path to another. -/
def copyOne (deep : Bool) (source target : String) : Act Unit := do
  let s ← get
  let found : Except StoreError (Location × Entry) := do
    let place ← s.store.locate s.place source
    match s.store.look? place with
    | some e => .ok (place, e)
    | none => .error .notFound
  match found with
  | .error e => object "cp" ("cannot stat " ++ quotedName source ++ ": " ++ e.reason)
  | .ok (place, .directory) =>
    if !deep then object "cp" ("-r not specified; omitting directory " ++ quotedName source)
    else
      match (← change fun store base => store.makeDirectories base target) with
      | some e => object "cp" ("cannot create directory " ++ quotedName target ++ ": " ++ e.reason)
      | none =>
        match s.store.locate s.place target with
        | .ok there => modify fun t => { t with store := copyBelow place there t.store }
        | .error _ => pure ()
  | .ok (place, e) =>
    let data := match e with
      | .file data => data
      | _ => .empty
    let same : Bool := match s.store.locate s.place target with
      | .ok there => there = place
      | .error _ => false
    if same then
      object "cp" (quotedName source ++ " and " ++ quotedName target ++ " are the same file")
    else
      match (← change fun store base => store.write base target data) with
      | some e =>
        let e := if Store.namesDirectory target then StoreError.notDirectory else e
        object "cp" ("cannot create regular file " ++ quotedName target ++ ": " ++ e.reason)
      | none => pure ()

/-- Calls an action for each source with its target; several sources need a directory. -/
def towards (name : String) (operands : List String) (act : String → String → Act Unit) : Act Unit := do
  match operands.reverse with
  | [] => misused name "missing file operand"
  | [only] => misused name ("missing destination file operand after " ++ quotedName only)
  | target :: sources =>
    let s ← get
    if s.store.hasDirectory s.place target then
      for source in sources.reverse do
        act source (Path.join target (lastName source))
    else
      match sources with
      | [source] => act source target
      | _ =>
        let e : StoreError := if s.store.has s.place target then .notDirectory else .notFound
        object name ("target " ++ quotedName target ++ ": " ++ e.reason)

/-- Copies files. -/
def cp (args : List String) : Act Unit :=
  withOptions "cp" ['r', 'R', 'a', 'f', 'p'] args fun letters operands =>
    towards "cp" operands (copyOne (letters.any ['r', 'R', 'a'].contains))

/-- Removes a location and all below it. -/
def eraseBelow (place : Location) (s : Store) : Store := ⟨s.entries.filter fun (l, _) => !place.isPrefixOf l⟩

/-- Removes files. -/
def rm (args : List String) : Act Unit :=
  withOptions "rm" ['f', 'r', 'R'] args fun letters operands => do
    if operands.isEmpty && !letters.contains 'f' then
      misused "rm" "missing operand"
    for path in operands do
      let s ← get
      if letters.any ['r', 'R'].contains && s.store.hasDirectory s.place path then
        match s.store.locate s.place path with
        | .ok place => set { s with store := eraseBelow place s.store }
        | .error _ => pure ()
      else
        match (← change fun store base => store.remove base path) with
        | none => pure ()
        | some e =>
          if !(letters.contains 'f' && e = .notFound) then
            object "rm" ("cannot remove " ++ quotedName path ++ ": " ++ e.reason)

/-- Moves files. -/
def mv (args : List String) : Act Unit :=
  withOptions "mv" ['f'] args fun _ operands =>
    towards "mv" operands fun source target => do
      let s ← get
      match s.store.locate s.place source, s.store.locate s.place target with
      | .ok a, .ok b =>
        match s.store.look? a with
        | none => object "mv" ("cannot stat " ++ quotedName source ++ ": " ++ StoreError.notFound.reason)
        | some e =>
          if a = b then object "mv" (quotedName source ++ " and " ++ quotedName target ++ " are the same file")
          else
            let store := copyBelow a b ((eraseBelow b s.store).put b e)
            set { s with store := eraseBelow a store }
      | .error e, _ => object "mv" ("cannot stat " ++ quotedName source ++ ": " ++ e.reason)
      | _, .error e =>
        object "mv" ("cannot move " ++ quotedName source ++ " to " ++ quotedName target ++ ": " ++ e.reason)

/-- Makes directories. -/
def mkdir (args : List String) : Act Unit :=
  withOptions "mkdir" ['p'] args fun letters operands => do
    if operands.isEmpty then misused "mkdir" "missing operand"
    for path in operands do
      let made ← change fun store base =>
        if letters.contains 'p' then store.makeDirectories base path else store.makeDirectory base path
      match made with
      | none => pure ()
      | some e => object "mkdir" ("cannot create directory " ++ quotedName path ++ ": " ++ e.reason)

/-- Makes empty files. -/
def touch (args : List String) : Act Unit :=
  withOptions "touch" [] args fun _ operands => do
    if operands.isEmpty then misused "touch" "missing file operand"
    for path in operands do
      let s ← get
      if !s.store.has s.place path then
        match (← change fun store base => store.write base path .empty) with
        | none => pure ()
        | some e => object "touch" ("cannot touch " ++ quotedName path ++ ": " ++ e.reason)

/-- The names that are shown for a directory. -/
def listed (letters : List Char) (s : Store) (place : Location) : List String :=
  let names := s.names place
  let names :=
    if letters.contains 'a' then "." :: ".." :: names
    else if letters.contains 'A' then names
    else names.filter fun n => n.toList.head? != some '.'
  names.mergeSort fun a b => a ≤ b

/-- Lines, one for each text. -/
def linesOf (texts : List String) : String := texts.foldl (fun out t => out ++ t ++ "\n") ""

/-- Lists files and directories. -/
def ls (args : List String) : Act Unit := do
  withOptions "ls" ['1', 'a', 'A', 'd', 'C', 'x'] args fun letters operands => do
    let s ← get
    let paths := (if operands.isEmpty then ["."] else operands).mergeSort fun a b => a ≤ b
    for path in paths do
      if !s.store.has s.place path then
        object "ls" ("cannot access " ++ quotedName path ++ ": " ++ StoreError.notFound.reason)
    let (dirs, files) := (paths.filter fun p => s.store.has s.place p).partition fun p =>
      s.store.hasDirectory s.place p && !letters.contains 'd'
    sayText (linesOf files)
    let several := 1 < operands.length
    let mut first := files.isEmpty
    for dir in dirs do
      match s.store.locate s.place dir with
      | .error _ => pure ()
      | .ok place =>
        let head := if several then (if first then "" else "\n") ++ dir ++ ":\n" else ""
        sayText (head ++ linesOf (listed letters s.store place))
        first := false
  if (← get).status != 0 then finish 2

/-- Shows words in a line. -/
def echo (args : List String) : Act Unit := do
  finish 0
  let options := args.takeWhile fun a =>
    match a.toList with
    | '-' :: c :: cs => (c :: cs).all ['n', 'e', 'E'].contains
    | _ => false
  let words := args.drop options.length
  let letters := options.flatMap fun a => a.toList.tail
  let escapes := (letters.reverse.find? fun c => c = 'e' || c = 'E') = some 'e'
  let newline := !letters.contains 'n'
  say (if escapes then echoEscaped .tool newline words else echoPlain newline words)

/-- Shows arguments in a format. -/
def printf (args : List String) : Act Unit := do
  finish 0
  match (match args with | "--" :: args => args | args => args) with
  | [] => misused "printf" "missing operand"
  | format :: args =>
    let (out, complaints) := formatted .tool format args
    say out
    for line in complaints do object "printf" line

/-- The tools by their names, but for the shell itself. -/
def byName? (name : String) : Option (List String → Act Unit) :=
  match name with
  | "true" => some fun _ => finish 0
  | "false" => some fun _ => finish 1
  | "echo" => some echo
  | "printf" => some printf
  | "sleep" => some fun _ => finish 0
  | "cat" => some cat
  | "cp" => some cp
  | "ls" => some ls
  | "rm" => some rm
  | "mv" => some mv
  | "mkdir" => some mkdir
  | "touch" => some touch
  | _ => none

/-- The directories in which the tools are. -/
def directories : List String := ["/bin/", "/usr/bin/"]

/-- The name of the tool that a path leads to. -/
def ofPath? (path : String) : Option String :=
  directories.findSome? fun dir =>
    if dir.toList.isPrefixOf path.toList then
      let name := (path.drop dir.length).toString
      if name = "sh" || (byName? name).isSome then some name else none
    else none

end Tool

end AgentTrial.Shell
