import AgentTrial.Calendar.Stamp
import AgentTrial.Cli.Run
import AgentTrial.Host.Identifier
import AgentTrial.Shell.Process
import Std.Time.DateTime.Timestamp

/-!
# Main — the program

The files that the command line names are read, the command is done on them, and what it changed is written back.
-/

namespace AgentTrial.Outer

open AgentTrial

/-- Reads a file into a store, if it is there. -/
def readInto (store : Store) (path : String) : IO Store := do
  try
    let data ← IO.FS.readBinFile path
    return (store.writeDeep [] path data).toOption.getD store
  catch _ => return store

/-- The paths that arguments may name: each of them as a whole, or what follows its equals sign. -/
def namedPaths (args : List String) : List String :=
  args.flatMap fun a =>
    match Cli.splitEquals a.toList with
    | (_, some value) => [a, value]
    | (_, none) => [a]

/-- Writes the files that are not in the first store as they are in the second, and removes those that are gone. -/
def writeBack (before after : Store) : IO Unit := do
  for (path, data) in after.files do
    if !before.files.contains (path, data) then
      if let some dir := Path.directory? path then IO.FS.createDirAll dir
      IO.FS.writeBinFile path data
  for (path, _) in before.files do
    if !after.has [] path then IO.FS.removeFile path

/-- The variables that the program knows, as far as they are set. -/
def knownVariables : IO (Table String) := do
  let mut found : Table String := []
  for name in [Cli.configVariable, "XDG_CONFIG_HOME"] do
    if let some value ← IO.getEnv name then found := found ++ [(name, value)]
  return found

/-- The surroundings of the program. -/
def facilities : IO Cli.Facilities := do
  let environment ← knownVariables
  let home ← IO.getEnv "HOME"
  let now := (← Std.Time.Timestamp.now).val
  let stamp := (Instant.mk now.second.val now.nano.val.toNat).stamp?.getD ""
  let tag := (← IO.getRandomBytes 4).toList.foldl (fun n b => n * 256 + b.toNat) 0
  let runBytes ← IO.getRandomBytes 16
  return {
    submissionId := fun n => Identifier.ofStamp stamp ((tag + n) % Nat.pow 2 32)
    runId := Identifier.ofBytes runBytes.toList
    runner := Shell.runCommand
    environment
    home := home.filter (· != "") }

end AgentTrial.Outer

/-- Runs the program. -/
def main (args : List String) : IO UInt32 := do
  let f ← AgentTrial.Outer.facilities
  let configs := ((AgentTrial.Table.get? AgentTrial.Cli.configVariable f.environment).toList ++
    f.standardConfig?.toList)
  let before ← (AgentTrial.Outer.namedPaths args ++ configs).foldlM AgentTrial.Outer.readInto AgentTrial.Store.empty
  let ending := AgentTrial.Cli.run f args before
  AgentTrial.Outer.writeBack before ending.store
  IO.print ending.output
  for line in ending.notices do IO.eprintln line
  if let some chain := ending.failure then IO.eprint (AgentTrial.Cli.failureText chain)
  return ending.exitCode.toUInt32
