import AgentTrial.Cli.Console
import AgentTrial.Cli.Invocation
import AgentTrial.Cli.Table
import AgentTrial.Host.Mock
import AgentTrial.Host.Vitest
import AgentTrial.Optimizer.Run
import AgentTrial.Part
import AgentTrial.Provider.Command
import AgentTrial.Provider.Mock

/-!
# Run — the commands of the program

Each command loads what it works on, does its work and prints what came of it.  A report with cases that did not pass
is printed, and then the command fails.

* `run_exitCode`: an invocation ends with 0 exactly when nothing failed.
-/

namespace AgentTrial.Cli

/-! ## Settings -/

/-- The configuration with what the command line changes. -/
def HostOverrides.applyTo (o : HostOverrides) (c : EngineConfig) : EngineConfig :=
  { c with
    skipPolicy := if o.excludeSkipped then .exclude else c.skipPolicy
    host :=
      { c.host with
        workDir := o.workDir.getD c.host.workDir
        timeoutSecs := o.timeoutSecs.getD c.host.timeoutSecs
        keepArtifacts := o.keepArtifacts || c.host.keepArtifacts } }

/-- A mock host that remembers nothing. -/
def passingHost : TestHost (StateM Console) := MockHost.host.lift fun step => pure (step .allPass).1

/-- A mock provider that gives empty replies and remembers nothing. -/
def silentProvider : InferenceProvider (StateM Console) :=
  MockProvider.provider.lift fun step => pure (step { MockProvider.empty with fallback := some "" }).1

/-- Who runs command lines for the program. -/
def Facilities.commandRunner (f : Facilities) : CommandRunner := f.runner.withVariables f.environment

/-- The test host of a run. -/
def hostOf (f : Facilities) (c : EngineConfig) (dryRun : Bool) : TestHost (StateM Console) :=
  if dryRun then passingHost else (Vitest.host c.host f.commandRunner).lift onFiles

/-- The provider of a run. -/
def providerOf (f : Facilities) (c : EngineConfig) (dryRun : Bool) : InferenceProvider (StateM Console) :=
  if dryRun then silentProvider else (CommandProvider.provider c.provider f.commandRunner).lift onFiles

/-- The orchestrator of a run. -/
def orchestratorOf (f : Facilities) (c : EngineConfig) (dryRun : Bool) : Orchestrator (StateM Console) :=
  ⟨hostOf f c dryRun, c.skipPolicy, f.surroundings⟩

/-! ## Commands -/

/-- Looks for all problems of a specification. -/
def validate (path : String) : Work Unit := do
  let text ← readFile ("Failed to read " ++ path) path
  let format := DocumentFormat.ofPath path
  match Specification.ofText format text with
  | .error c => failTo ("Failed to parse " ++ path) (format.fault c).chain
  | .ok s =>
    let problems := s.problems
    if !problems.isEmpty then
      printLines (("✗ " ++ path) :: problems.map fun p => "  - " ++ p.message)
      throw [toString problems.length ++ " problem(s) found"]
    match Program.compile s with
    | .error e => failTo "Specification is valid but does not compile" [e.message]
    | .ok program =>
      printLines ["✓ " ++ path ++ " (" ++ s.metadata.name ++ " v" ++ s.metadata.version ++ ", " ++
        toString program.units.length ++ " case(s), " ++ toString s.tools.length ++ " tool(s))"]

/-- Writes one file for each unit. -/
def writeUnits (program : SourceProgram) (dir : String) : Work Unit := do
  makeDirectories dir
  for u in program.units do
    writeFile (Path.join dir (u.fileStem ++ ".test.ts")) u.source
  note (toString program.units.length ++ " unit(s) written to " ++ dir)

/-- Compiles a specification and writes the program. -/
def compile (spec : String) (out units : Option String) : Work Unit := do
  let s ← loadSpecification spec
  match Program.compile s with
  | .error e => failTo "Failed to compile specification" [e.message]
  | .ok program =>
    if let some dir := units then writeUnits program dir
    match out with
    | some out =>
      if let some dir := Path.directory? out then makeDirectories dir
      writeFile out program.combined
      note ("Program written to " ++ out)
    | none => if units.isNone then print program.combined

/-- Fails unless a run went well. -/
def checkReport (r : ResultReport Float) : Work Unit := do
  if r.fatal then throw ["test host failed to run the program"]
  if !r.success then
    let s := r.summary
    throw [toString (s.total - s.passed) ++ " of " ++ toString s.total ++ " case(s) did not pass"]

/-- Runs a specification once. -/
def execute (f : Facilities) (c : EngineConfig) (spec : String) (asJson : Bool) (host : HostOverrides) : Work Unit := do
  let c := host.applyTo c
  let s ← loadSpecification spec
  match ← (orchestratorOf f c host.dryRun).executeOnce s with
  | .error e => failTo "Failed to run specification" (Fault.compile e).chain
  | .ok r =>
    if asJson then printLines [r.toJson.pretty] else printLines (reportLines r)
    checkReport r

/-- The words for the end of an optimization. -/
def stopReason : LoopState → String
  | .converged _ => "Target pass rate reached"
  | .exhausted _ => "Iteration limit reached"
  | .running _ => "Running"

/-- The lines about a finished optimization. -/
def outcomeLines (settings : OptimizerSettings) (out : String) (o : OptimizationOutcome) : List String :=
  let rule := repeated 60 '═'
  let target := if o.converged then "✓ Target reached" else "⚠ Stopped early"
  [rule, "Optimization Complete " ++ target, rule, "", "Summary", "  Iterations: " ++ toString o.history.length] ++
    (match o.finalReport? with
    | some r => ["  Final Pass Rate: " ++ Decimal.renderTenths r.passPercent ++ "%"]
    | none => []) ++
    ["  Target: " ++ Decimal.message.render settings.minPassRate ++ "%",
      "  Duration: " ++ Decimal.renderTenths (o.durationMs.toFloat / 1000) ++ "s",
      "  Stop Reason: " ++ stopReason o.state, ""] ++
    scoreLines o.scores ++
    (match o.finalReport? with
    | some r => "Final Run" :: reportLines r ++ [""]
    | none => []) ++
    ["Run", "  ID: " ++ o.runId, "  Strategy: " ++ settings.strategy.name, "  Model: " ++ settings.model,
      "  Specification: " ++ out, ""]

/-- Writes the history of an optimization, if that is wanted. -/
def writeHistory (path : Option String) (history : List IterationRecord) : Work Unit := do
  if let some path := path then writeFile path (IterationRecord.historyToJson history).pretty

/-- The settings of an optimization. -/
def overridesOf (r : OptimizeRequest) : OptimizerOverrides where
  model := r.model
  iterations := r.iterations
  minPassRate := r.minPassRate
  strategy := r.strategy
  snapshotPath := some (r.out.getD r.spec)

/-- Improves the prompt of a specification. -/
def optimize (f : Facilities) (c : EngineConfig) (r : OptimizeRequest) : Work Unit := do
  let c := r.host.applyTo c
  let s ← loadSpecification r.spec
  match OptimizerSettings.resolve s (overridesOf r) with
  | .error e => failTo "Invalid optimizer settings" [e.message]
  | .ok settings =>
    let optimizer : Optimizer (StateM Console) :=
      { orchestrator := orchestratorOf f c r.host.dryRun
        provider := providerOf f c r.host.dryRun
        settings
        save := fun path s c =>
          match s.save path c.store with
          | .ok store => (.ok (), { c with store })
          | .error f => (.error f, c) }
    match ← optimizer.optimize s with
    | .ok o =>
      writeHistory r.history o.history
      printLines (outcomeLines settings (r.out.getD r.spec) o)
      if !o.converged then
        throw ["pass rate stayed below " ++ Decimal.message.render settings.minPassRate ++ "% after " ++
          toString o.history.length ++ " iteration(s)"]
    | .error a =>
      writeHistory r.history a.history
      printLines (("Optimization aborted after " ++ toString a.history.length ++ " iteration(s)") ::
        scoreLines (a.history.map (·.report.passPercent)))
      failTo "Optimization aborted" a.fault.chain

/-- Does what is asked for. -/
def perform (f : Facilities) (i : Invocation) : Work Unit := do
  let c ← loadConfig f i.config
  match i.task with
  | .compile spec out units => compile spec out units
  | .execute spec asJson host => execute f c spec asJson host
  | .optimize r => optimize f c r
  | .validate spec => validate spec
  | .version => printLines [programName ++ " " ++ programVersion]

/-! ## The program -/

/-- How the program ended. -/
structure Ending where
  exitCode : Nat
  output : String
  notices : List String
  /-- Why it failed, if it did. -/
  failure : Option Failure
  store : Store

/-- The end of an invocation. -/
def Ending.ofWork (left : Except Failure Unit) (c : Console) : Ending :=
  match left with
  | .ok () => ⟨0, c.output, c.notices, none, c.store⟩
  | .error chain => ⟨1, c.output, c.notices, some chain, c.store⟩

/-- Runs an invocation over files. -/
def runInvocation (f : Facilities) (i : Invocation) (store : Store) : Ending :=
  let (left, c) := perform f i ⟨store, "", [], 0⟩
  .ofWork left c

/-- Runs the program with arguments over files. -/
def run (f : Facilities) (args : List String) (store : Store) : Ending :=
  match Reading.ofArgs f.environment args with
  | .invoke i => runInvocation f i store
  | .misuse => ⟨2, "", [], none, store⟩
  | .help => ⟨0, "", [], none, store⟩
  | .version name => ⟨0, name ++ " " ++ programVersion ++ "\n", [], none, store⟩

theorem run_exitCode (f : Facilities) (i : Invocation) (store : Store) :
    (runInvocation f i store).exitCode = 0 ↔ (runInvocation f i store).failure = none := by
  unfold runInvocation
  split
  rename_i left c _
  cases left <;> simp [Ending.ofWork]

end AgentTrial.Cli
