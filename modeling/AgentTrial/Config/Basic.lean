import AgentTrial.Report.Basic
import AgentTrial.Fault
import AgentTrial.Json.Decode
import AgentTrial.Text.Search
import AgentTrial.Toml.Reader

/-!
# Config — settings of the engine

How skipped cases count, the command line of the test host and the command line of the provider.  Every setting has a
default, and a command line holds placeholders for what is known only when it is run.
-/

namespace AgentTrial

/-- The settings of the test host. -/
structure HostConfig where
  command : List String
  /-- The directory of the generated files. -/
  workDir : String
  /-- The longest run in seconds; 0 stands for no bound. -/
  timeoutSecs : Nat
  keepArtifacts : Bool
  deriving Repr, DecidableEq

namespace HostConfig

/-- The placeholder of the unit files. -/
def filesHole : String := "\x7bfiles\x7d"

/-- The placeholder of the report file. -/
def reportHole : String := "\x7breport\x7d"

/-- The default settings of the test host. -/
def standard : HostConfig where
  command := ["npx", "vitest", "run", filesHole, "--reporter=json", "--outputFile=" ++ reportHole]
  workDir := ".agentspec"
  timeoutSecs := 600
  keepArtifacts := false

/-- The fields of the settings. -/
def fields : Fields HostConfig :=
  mk <$> Fields.defaulted "command" (Datum.asList Datum.asText) standard.command <*>
    Fields.defaulted "work_dir" Datum.asText standard.workDir <*>
    Fields.defaulted "timeout_secs" (Datum.asNat Json.maxNat64) standard.timeoutSecs <*>
    Fields.defaulted "keep_artifacts" Datum.asBool standard.keepArtifacts

/-- The value tree of the settings. -/
def toJson (c : HostConfig) : Json :=
  .record [("command", Json.texts c.command), ("work_dir", .text c.workDir), ("timeout_secs", .nat c.timeoutSecs),
    ("keep_artifacts", .bool c.keepArtifacts)]

end HostConfig

/-- The settings of the provider. -/
structure ProviderConfig where
  command : List String
  /-- The longest request in seconds; 0 stands for no bound. -/
  timeoutSecs : Nat
  deriving Repr, DecidableEq

namespace ProviderConfig

/-- The placeholder of the model. -/
def modelHole : String := "\x7bmodel\x7d"

/-- The default settings of the provider. -/
def standard : ProviderConfig := ⟨["llm", "-m", modelHole], 300⟩

/-- The fields of the settings. -/
def fields : Fields ProviderConfig :=
  mk <$> Fields.defaulted "command" (Datum.asList Datum.asText) standard.command <*>
    Fields.defaulted "timeout_secs" (Datum.asNat Json.maxNat64) standard.timeoutSecs

/-- The value tree of the settings. -/
def toJson (c : ProviderConfig) : Json :=
  .record [("command", Json.texts c.command), ("timeout_secs", .nat c.timeoutSecs)]

end ProviderConfig

/-- The settings of the engine. -/
structure EngineConfig where
  skipPolicy : SkipPolicy
  host : HostConfig
  provider : ProviderConfig
  deriving Repr, DecidableEq

namespace EngineConfig

/-- The default settings. -/
def standard : EngineConfig := ⟨default, .standard, .standard⟩

/-- The fields of the settings of an execution. -/
def executionFields : Fields SkipPolicy := Fields.defaulted "skip_policy" SkipPolicy.decode default

/-- The fields of the settings. -/
def fields : Fields EngineConfig :=
  mk <$> Fields.defaulted "execution" executionFields.decode default <*>
    Fields.defaulted "host" HostConfig.fields.decode .standard <*>
    Fields.defaulted "provider" ProviderConfig.fields.decode .standard

/-- The value tree of the settings. -/
def toJson (c : EngineConfig) : Json :=
  .record [("execution", .record [("skip_policy", .text c.skipPolicy.name)]), ("host", c.host.toJson),
    ("provider", c.provider.toJson)]

/-- The first unusable setting. -/
def check (c : EngineConfig) : Except SettingError Unit :=
  if c.host.command.isEmpty then .error ⟨"host.command", "must not be empty"⟩
  else if !c.host.command.any (Text.occurs HostConfig.filesHole.toList ·.toList) then
    .error ⟨"host.command", "must contain a " ++ HostConfig.filesHole ++ " placeholder"⟩
  else if c.provider.command.isEmpty then .error ⟨"provider.command", "must not be empty"⟩
  else .ok ()

/-- Reads settings and checks them. -/
def ofText (s : String) : Except Fault EngineConfig :=
  match Toml.ofText fields.decode s with
  | .error _ => .error .toml
  | .ok c =>
    match c.check with
    | .error e => .error (.setting e)
    | .ok () => .ok c

end EngineConfig

end AgentTrial
