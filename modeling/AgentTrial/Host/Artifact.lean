import AgentTrial.Config.Basic
import AgentTrial.Host.Basic

/-!
# Artifact — the files of a submission

Every unit of a submission has a file of its own in the work directory, named after the submission and the unit, and
the test runner writes its report beside them.  A command line gets the paths in place of its placeholders.
-/

namespace AgentTrial.HostConfig

/-- The name of the file of a unit. -/
def unitFile (s : Submission) (index : Nat) : String :=
  let stem := match s.units[index]? with
    | some u => u.fileStem
    | none => "unit"
  "agentspec-" ++ s.id ++ "-" ++ stem ++ ".test.ts"

/-- The path of the file of a unit. -/
def unitPath (c : HostConfig) (s : Submission) (index : Nat) : String := Path.join c.workDir (unitFile s index)

/-- The paths of the files of all units. -/
def unitPaths (c : HostConfig) (s : Submission) : List String := (List.range s.units.length).map (c.unitPath s)

/-- The path of the report. -/
def reportPath (c : HostConfig) (s : Submission) : String :=
  Path.join c.workDir ("agentspec-" ++ s.id ++ "-report.json")

/-- An argument with the paths in place of the placeholders; files in an argument with other text stand in one line. -/
def expandArgument (files : List String) (report arg : String) : List String :=
  if arg = filesHole then files
  else [Text.replaceAll reportHole report (Text.replaceAll filesHole (" ".intercalate files) arg)]

/-- The command line for a submission. -/
def commandLine (c : HostConfig) (s : Submission) : List String :=
  c.command.flatMap (expandArgument (c.unitPaths s) (c.reportPath s))

end AgentTrial.HostConfig
