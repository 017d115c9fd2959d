import AgentTrial.Cli.Argument

/-!
# Invocation — what the program is asked to do

The first operand of the program names a command and the rest are its arguments.  The options of the program itself may
stand before the command or among its arguments.
-/

namespace AgentTrial.Cli

/-- What the command line changes about the test host. -/
structure HostOverrides where
  /-- Uses a host where every case passes. -/
  dryRun : Bool
  workDir : Option String
  keepArtifacts : Bool
  timeoutSecs : Option Nat
  excludeSkipped : Bool
  deriving Repr, DecidableEq, Inhabited

/-- What an optimization is asked to do. -/
structure OptimizeRequest where
  spec : String
  /-- Where the specification is written, in place of where it was read. -/
  out : Option String
  iterations : Option Nat
  minPassRate : Option Float
  strategy : Option String
  model : Option String
  /-- Where the history is written. -/
  history : Option String
  host : HostOverrides
  deriving Repr, Inhabited

/-- What the program does. -/
inductive Task
  /-- Writes the program of a specification, to the output if no place is named. -/
  | compile (spec : String) (out units : Option String)
  | execute (spec : String) (asJson : Bool) (host : HostOverrides)
  | optimize (r : OptimizeRequest)
  | validate (spec : String)
  | version
  deriving Repr

/-- What the program is asked to do. -/
structure Invocation where
  /-- The configuration file that is named. -/
  config : Option String
  task : Task
  deriving Repr

/-- The options of the program, which every command has too. -/
def sharedOptions : List OptionForm := [⟨"config", none, some .path⟩, ⟨"log-json", none, none⟩]

/-- The options about the test host. -/
def hostOptions : List OptionForm :=
  [⟨"dry-run", none, none⟩, ⟨"work-dir", none, some .path⟩, ⟨"keep-artifacts", none, none⟩,
    ⟨"timeout", none, some .natural⟩, ⟨"exclude-skipped", none, none⟩]

/-- The options of the commands, and how many operands each of them needs. -/
def commandForms : List (String × List OptionForm × Nat) :=
  [("compile", [⟨"out", some 'o', some .path⟩, ⟨"units", none, some .path⟩], 1),
    ("execute", ⟨"json", none, none⟩ :: hostOptions, 1),
    ("optimize", [⟨"out", some 'o', some .path⟩, ⟨"iterations", some 'i', some .natural⟩,
      ⟨"min-pass-rate", some 'p', some .number⟩, ⟨"strategy", some 's', some .text⟩, ⟨"model", some 'm', some .text⟩,
      ⟨"history", none, some .path⟩] ++ hostOptions, 1),
    ("validate", [], 1),
    ("version", [], 0)]

/-- The name of the program. -/
def programName : String := "agentspec"

/-- The version of the program. -/
def programVersion : String := "0.1.0"

/-- How the reading of a command line ends: with something to do, or with something to say. -/
inductive Reading
  | invoke (i : Invocation)
  | misuse
  | help
  /-- The version is asked for, of the program or of one of its commands. -/
  | version (name : String)
  deriving Repr

/-- The changes about the test host. -/
def HostOverrides.ofArguments (a : Arguments) : HostOverrides where
  dryRun := a.has "dry-run"
  workDir := a.value? "work-dir"
  keepArtifacts := a.has "keep-artifacts"
  timeoutSecs := (a.value? "timeout").bind natural?
  excludeSkipped := a.has "exclude-skipped"

/-- What a command does with its arguments. -/
def taskOf? (command : String) (a : Arguments) : Option Task :=
  match command, a.operands with
  | "compile", [spec] => some (.compile spec (a.value? "out") (a.value? "units"))
  | "execute", [spec] => some (.execute spec (a.has "json") (.ofArguments a))
  | "optimize", [spec] => some <| .optimize
    { spec
      out := a.value? "out"
      iterations := (a.value? "iterations").bind natural?
      minPassRate := (a.value? "min-pass-rate").bind Decimal.ofText?
      strategy := a.value? "strategy"
      model := a.value? "model"
      history := a.value? "history"
      host := .ofArguments a }
  | "validate", [spec] => some (.validate spec)
  | "version", [] => some .version
  | _, _ => none

/-- Reads the arguments of a command; the shared options before it are given.  A preset configuration has to be named
properly even where another one is named. -/
def readCommand (shared : Arguments) (presetConfig : Option String) (command : String) (args : List String) : Reading :=
  match Table.get? command commandForms with
  | none => .misuse
  | some (forms, most) =>
    match readArguments (sharedOptions ++ forms) most args .empty with
    | .error .misuse => .misuse
    | .error .help => .help
    | .error .version => .version (programName ++ "-" ++ command)
    | .ok a =>
      let config := ((a.value? "config").or (shared.value? "config")).or presetConfig
      match taskOf? command a with
      | none => .misuse
      | some task => if presetConfig = some "" then .misuse else .invoke ⟨config, task⟩

/-- Reads the options before the command. -/
def readProgram (presetConfig : Option String) : List String → Arguments → Reading
  | [], _ => .misuse
  | arg :: args, a =>
    match partOf sharedOptions arg with
    | .ended => .misuse
    | .stop .misuse => .misuse
    | .stop .help => .help
    | .stop .version => .version programName
    | .operand =>
      if arg = "help" then
        if args.isEmpty || (args.length = 1 && args.all fun c => c = "help" || (Table.get? c commandForms).isSome) then
          .help
        else .misuse
      else readCommand a presetConfig arg args
    | .option o (some value) =>
      match a.addOption o value with
      | .error _ => .misuse
      | .ok a => readProgram presetConfig args a
    | .option o none =>
      match o.value, args with
      | none, args =>
        match a.addOption o "" with
        | .error _ => .misuse
        | .ok a => readProgram presetConfig args a
      | some _, value :: args =>
        if startsOption value then .misuse
        else
          match a.addOption o value with
          | .error _ => .misuse
          | .ok a => readProgram presetConfig args a
      | some _, [] => .misuse

/-- The variable that names the configuration file, if the command line does not. -/
def configVariable : String := "AGENTSPEC_CONFIG"

/-- Reads a command line among variables. -/
def Reading.ofArgs (environment : Table String) (args : List String) : Reading :=
  readProgram (Table.get? configVariable environment) args .empty

end AgentTrial.Cli
