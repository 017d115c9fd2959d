import AgentTrial.Command.Basic
import AgentTrial.Shell.Run

/-!
# Process — command lines run by tools

A command line names a tool by its path or by its bare name.  The tool runs as a process of its own over the files of
the store, which keep what it did.
-/

namespace AgentTrial.Shell

/-- The variables that every process has. -/
def standardEnvironment : Table String := [("PATH", "/usr/local/bin:/usr/bin:/bin")]

/-- The number of the first process. -/
def firstProcess : Nat := 1000

/-- The steps that a process may take. -/
def stepLimit : Nat := 20000

/-- The tool that the first word of a command line names. -/
def toolOf? (name : String) : Option String :=
  if name.toList.contains '/' then Tool.ofPath? name
  else if name = "sh" || (Tool.byName? name).isSome then some name
  else none

/-- What a tool does with arguments, as a process. -/
def toolAct (tool : String) (args : List String) : Act Unit :=
  if tool = "sh" then shell stepLimit args
  else
    match Tool.byName? tool with
    | some act => act args
    | none => finish 127

/-- The session in which a command line starts. -/
def sessionOf (r : CommandRequest) (store : Store) (place : Location) : Session where
  store := store
  place := place
  vars := r.environment.foldl (fun t (name, value) => Table.insert name value t) standardEnvironment
  exported := standardEnvironment.map Prod.fst ++ r.environment.map Prod.fst
  name := "sh"
  args := []
  status := 0
  input := r.input.toUTF8
  out := .buffer 0
  err := .buffer 1
  buffers := #[.empty, .empty]
  process := firstProcess
  options := []
  asked := false

/-- The directory of a command line. -/
def startPlace (r : CommandRequest) (store : Store) : Except StoreError Location :=
  match r.directory with
  | none => .ok []
  | some path => do
    let place ← store.locate [] path
    match store.look? place with
    | some .directory => .ok place
    | some _ => .error .notDirectory
    | none => .error .notFound

/-- The outcome of a session that has ended. -/
def outcomeOf (name : String) (timeoutSecs : Nat) (left : Except Leave Unit) (s : Session) :
    Except CommandError CommandOutcome :=
  let buffer (n : Nat) : String := Lossy.decode ((s.buffers[n]?).getD .empty)
  match left with
  | .error .endless => .error (.timedOut name timeoutSecs)
  | .error (.killed ..) => .ok ⟨none, buffer 0, buffer 1⟩
  | _ => .ok ⟨some s.status, buffer 0, buffer 1⟩

/-- Has a text a null character? -/
def hasNull (s : String) : Bool := s.toList.contains '\x00'

/-- Runs a command line. -/
def runCommand : CommandRunner := fun r store =>
  match r.argv with
  | [] => (.error .emptyLine, store)
  | name :: args =>
    match toolOf? name with
    | none => (.error (.executableMissing name), store)
    | some tool =>
      if args.any hasNull || r.environment.any (fun (k, v) => hasNull k || hasNull v) ||
          (r.directory.getD "").toList.contains '\x00' then
        (.error (.nullInArgument name), store)
      else
        match startPlace r store with
        | .error e => (.error (.notStarted name e), store)
        | .ok place =>
          let (left, s) := toolAct tool args (sessionOf r store place)
          (outcomeOf name r.timeoutSecs left s, s.store)

end AgentTrial.Shell
