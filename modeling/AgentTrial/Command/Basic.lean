import AgentTrial.Document.Decode
import AgentTrial.Store.Basic

/-!
# Command — running command lines

A command line is run over the files of a store with an input, a directory and variables of its own, and ends with an
exit code and two texts.  Who runs it is left open.
-/

namespace AgentTrial

/-- A command line to be run. -/
structure CommandRequest where
  argv : List String
  /-- Variables beside those that are always there. -/
  environment : Table String
  /-- What the command reads. -/
  input : String
  /-- The directory that it runs in. -/
  directory : Option String
  /-- The longest run in seconds; 0 stands for no bound. -/
  timeoutSecs : Nat
  deriving Inhabited

namespace CommandRequest

/-- A command line with nothing else. -/
def ofArgv (argv : List String) : CommandRequest := ⟨argv, [], "", none, 0⟩

end CommandRequest

/-- How a command ended. -/
structure CommandOutcome where
  /-- The exit code; a killed command has none. -/
  code : Option Nat
  output : String
  errors : String
  deriving Repr, DecidableEq, Inhabited

namespace CommandOutcome

/-- Did the command end well? -/
def succeeded (o : CommandOutcome) : Bool := o.code = some 0

/-- The exit code as a number that is shown; -1 stands for none. -/
def shownCode (o : CommandOutcome) : Int :=
  match o.code with
  | some n => n
  | none => -1

end CommandOutcome

/-- Why a command did not run, or did not end. -/
inductive CommandError
  | emptyLine
  | executableMissing (name : String)
  /-- An argument or a variable has a null character. -/
  | nullInArgument (name : String)
  | notStarted (name : String) (e : StoreError)
  | timedOut (name : String) (secs : Nat)
  deriving Repr, DecidableEq

/-- The sentences for an error: what failed and then its cause, if that is known. -/
def CommandError.chain : CommandError → List String
  | emptyLine => ["empty command line"]
  | executableMissing name => ["executable not found: " ++ name, "cannot find binary path"]
  | nullInArgument name => ["failed to spawn " ++ name, "nul byte found in provided data"]
  | notStarted name e => ["failed to spawn " ++ name, e.message]
  | timedOut name secs => [name ++ " timed out after " ++ toString secs ++ " seconds"]

/-- The sentence for an error with its cause. -/
def CommandError.message (e : CommandError) : String := ": ".intercalate e.chain

/-- Who runs command lines over the files of a store. -/
abbrev CommandRunner := CommandRequest → StateM Store (Except CommandError CommandOutcome)

/-- The same runner with more variables; those of a command line come after them. -/
def CommandRunner.withVariables (runner : CommandRunner) (environment : Table String) : CommandRunner := fun r =>
  runner { r with environment := environment ++ r.environment }

end AgentTrial
