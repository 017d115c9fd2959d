import AgentTrial.Command.Basic
import AgentTrial.Host.Artifact
import AgentTrial.Host.RunnerReport

/-!
# Vitest — a host with a test runner

The host writes the units to files, runs the command line of the test runner and reads the report that it wrote.
Cleaning up removes these files, whether or not they are still there.  Both stop at the first failure, and what was done
before it stays.

* `cleanUp_of_keepArtifacts`: a host that keeps its files removes nothing.
-/

namespace AgentTrial.Vitest

/-- Writes files with their texts. -/
def writeAll : List (String × String) → StateM Store (Except Fault Unit)
  | [], store => (.ok (), store)
  | (path, text) :: rest, store =>
    match store.write [] path text.toUTF8 with
    | .error e => (.error (.submission ("cannot write " ++ path ++ ": " ++ e.message)), store)
    | .ok store => writeAll rest store

/-- Removes files, where they are still there. -/
def removeAll : List String → StateM Store (Except Fault Unit)
  | [], store => (.ok (), store)
  | path :: rest, store =>
    match store.remove [] path with
    | .ok store => removeAll rest store
    | .error e => if e = .notFound then removeAll rest store else (.error (.store e), store)

/-- Writes the units to their files. -/
def writeUnits (c : HostConfig) (s : Submission) : StateM Store (Except Fault Unit) := fun store =>
  match store.makeDirectories [] c.workDir with
  | .error e => (.error (.submission ("cannot create work dir " ++ c.workDir ++ ": " ++ e.message)), store)
  | .ok store => writeAll ((c.unitPaths s).zip (s.units.map (·.source))) store

/-- The command line of a submission, with the values that the units read. -/
def request (c : HostConfig) (s : Submission) : CommandRequest where
  argv := c.commandLine s
  environment := [(Program.providedVariable, s.provided.render)]
  input := ""
  directory := none
  timeoutSecs := c.timeoutSecs

/-- The names of the files with the names of the units. -/
def unitNames (c : HostConfig) (s : Submission) : List (String × String) :=
  ((c.unitPaths s).filterMap Path.fileName?).zip (s.units.map (·.name))

/-- Reads the report that a test runner wrote before it ended. -/
def readReport (c : HostConfig) (s : Submission) (o : CommandOutcome) (store : Store) : Except Fault HostReport :=
  let path := c.reportPath s
  match store.readText [] path with
  | .error e =>
    .error (.submission ("no report at " ++ path ++ " (" ++ e.message ++ "); exit code " ++ toString o.shownCode ++
      ": " ++ Text.trim o.errors))
  | .ok text => RunnerReport.readHostReport text (unitNames c s)

/-- Runs a submission. -/
def run (c : HostConfig) (runner : CommandRunner) (s : Submission) : StateM Store (Except Fault HostReport) :=
  fun store =>
    match writeUnits c s store with
    | (.error f, store) => (.error f, store)
    | (.ok (), store) =>
      match runner (request c s) store with
      | (.error e, store) => (.error (.submission e.message), store)
      | (.ok o, store) => (readReport c s o store, store)

/-- Removes the files of a submission. -/
def cleanUp (c : HostConfig) (s : Submission) : StateM Store (Except Fault Unit) :=
  if c.keepArtifacts then pure (.ok ()) else removeAll (c.unitPaths s ++ [c.reportPath s])

/-- The host with a test runner. -/
def host (c : HostConfig) (runner : CommandRunner) : TestHost (StateM Store) where
  name := "vitest"
  run := run c runner
  cleanUp := cleanUp c

theorem cleanUp_of_keepArtifacts {c : HostConfig} (h : c.keepArtifacts = true) (s : Submission) (store : Store) :
    cleanUp c s store = (.ok (), store) := by
  simp only [cleanUp, h, if_true]
  rfl

end AgentTrial.Vitest
