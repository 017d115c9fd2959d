import AgentTrial.Command.Basic
import AgentTrial.Config.Basic
import AgentTrial.Fault
import AgentTrial.Part
import AgentTrial.Report.Execute
import AgentTrial.Spec.File

/-!
# Console — a program at work

A program at work has files, and it prints: its output, and notices beside it.  It fails with a chain of sentences, what
could not be done first and its causes after it.
-/

namespace AgentTrial.Cli

/-- A program at work. -/
structure Console where
  store : Store
  /-- What was printed. -/
  output : String
  notices : List String
  /-- The number of submissions so far. -/
  submissions : Nat

/-- Why a program fails: sentences, each of which is the cause of the one before it. -/
abbrev Failure := List String

/-- The text of a failure: what could not be done, and below it the causes, with numbers when there are several. -/
def failureText : Failure → String
  | [] => ""
  | [only] => "Error: " ++ only ++ "\n"
  | [context, cause] => "Error: " ++ context ++ "\n\nCaused by:\n    " ++ cause ++ "\n"
  | context :: causes =>
    "Error: " ++ context ++ "\n\nCaused by:\n" ++
      String.join (causes.mapIdx fun i cause => "    " ++ toString i ++ ": " ++ cause ++ "\n")

/-- What a program does. -/
abbrev Work (α : Type) := ExceptT Failure (StateM Console) α

/-- What a program takes from its surroundings.  No time passes while it runs. -/
structure Facilities where
  /-- The identifier of a submission by its number. -/
  submissionId : Nat → String
  runId : String
  runner : CommandRunner
  environment : Table String
  /-- The home directory, if there is one; the empty path stands for the working directory. -/
  home : Option String

/-- Prints a text. -/
def print (text : String) : Work Unit := modify fun c => { c with output := c.output ++ text }

/-- Prints lines. -/
def printLines (lines : List String) : Work Unit := print (String.join (lines.map (· ++ "\n")))

/-- Notes that something was done. -/
def note (text : String) : Work Unit := modify fun c => { c with notices := c.notices ++ ["✓ " ++ text] }

/-- Fails to do something for a cause. -/
def failTo {α : Type} (context : String) (cause : Failure) : Work α := throw (context :: cause)

/-- Reads the text of a file. -/
def readFile (context : String) (path : String) : Work String := do
  match (← get).store.readText [] path with
  | .ok text => return text
  | .error e => failTo context [e.message]

/-- Writes a file. -/
def writeFile (path text : String) : Work Unit := do
  let c ← get
  match c.store.write [] path text.toUTF8 with
  | .ok store => set { c with store }
  | .error e => failTo ("Failed to write " ++ path) [e.message]

/-- Makes a directory and those above it. -/
def makeDirectories (path : String) : Work Unit := do
  let c ← get
  match c.store.makeDirectories [] path with
  | .ok store => set { c with store }
  | .error e => failTo ("Failed to create " ++ path) [e.message]

/-- Loads a valid specification. -/
def loadSpecification (path : String) : Work Specification := do
  match Specification.load (← get).store path with
  | .ok s => return s
  | .error f => failTo ("Failed to load specification " ++ path) f.chain

/-- A step on the files of a console. -/
def onFiles {α : Type} (step : StateM Store α) : StateM Console α := onPart Console.store (fun s c => { c with store := s }) step

/-- The surroundings of executions at a console. -/
def Facilities.surroundings (f : Facilities) : Surroundings (StateM Console) where
  submissionId c := (f.submissionId c.submissions, { c with submissions := c.submissions + 1 })
  runId := pure f.runId
  clock := pure 0

/-- The place of the configuration file that is used when none is named: below the directory for configurations, if it
is known by a whole path, and else below the home directory. -/
def Facilities.standardConfig? (f : Facilities) : Option String :=
  let dir := match Table.get? "XDG_CONFIG_HOME" f.environment with
    | some dir => if Path.isAbsolute dir then some dir else none
    | none => none
  (dir.or (f.home.map fun home => Path.join home ".config")).map fun dir =>
    Path.join dir "agentspec/config.toml"

/-- Loads the configuration: from the file that is named, which has to exist, or else from the standard one, if it
exists. -/
def loadConfig (f : Facilities) (named : Option String) : Work EngineConfig := do
  let store := (← get).store
  let path ← match named with
    | some path => if store.has [] path then pure (some path) else throw ["config file not found: " ++ path]
    | none => pure (f.standardConfig?.filter fun path => store.has [] path)
  match path with
  | none => return .standard
  | some path =>
    let text ← readFile ("Failed to read config file " ++ path) path
    match EngineConfig.ofText text with
    | .ok c => return c
    | .error e => failTo ("Failed to parse config file " ++ path) e.chain

end AgentTrial.Cli
