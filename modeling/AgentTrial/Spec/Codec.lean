import AgentTrial.Spec.Basic

/-!
# Codec — specifications as documents

Each part of a specification has a value tree and a decoder.  Optional values that are absent are not written, and an
empty table of generators is not written either.
-/

namespace AgentTrial

/-- The largest natural of thirty-two bits. -/
def maxNat32 : Nat := Nat.pow 2 32 - 1

namespace ToolChoice

/-- The word for a choice. -/
def name : ToolChoice → String
  | auto => "auto"
  | required => "required"
  | none => "none"

/-- The choices by their words. -/
def names : List (String × ToolChoice) := [auto, required, none].map fun c => (c.name, c)

end ToolChoice

namespace Role

/-- The word for a role. -/
def name : Role → String
  | system => "system"
  | user => "user"
  | assistant => "assistant"

/-- The roles by their words. -/
def names : List (String × Role) := [system, user, assistant].map fun r => (r.name, r)

end Role

namespace Metadata

/-- The fields of the metadata. -/
def fields : Fields Metadata :=
  mk <$> Fields.required "name" Datum.asText <*> Fields.defaulted "version" Datum.asText "0.1.0" <*>
    Fields.optional "description" Datum.asText

/-- The value tree of the metadata. -/
def toJson (m : Metadata) : Json :=
  .record ([("name", .text m.name), ("version", .text m.version)] ++
    Json.optional "description" (m.description.map .text))

end Metadata

namespace Agent

/-- The fields of an agent. -/
def fields : Fields Agent :=
  mk <$> Fields.required "model" Datum.asText <*> Fields.required "systemPrompt" Datum.asText <*>
    Fields.defaulted "toolChoice" (Datum.asVariant ToolChoice.names) .auto <*>
    Fields.optional "maxSteps" (Datum.asNat maxNat32)

/-- The value tree of an agent. -/
def toJson (a : Agent) : Json :=
  .record ([("model", .text a.model), ("systemPrompt", .text a.systemPrompt),
    ("toolChoice", .text a.toolChoice.name)] ++ Json.optional "maxSteps" (a.maxSteps.map Json.nat))

end Agent

namespace Generator

/-- The fields of a generator. -/
def fields : Fields Generator :=
  mk <$> Fields.required "prompt" Datum.asText <*> Fields.optional "model" Datum.asText

/-- The value tree of a generator. -/
def toJson (g : Generator) : Json :=
  .record (("prompt", .text g.prompt) :: Json.optional "model" (g.model.map .text))

end Generator

/-- The value tree of a table. -/
def Table.toJson {α : Type} (encode : α → Json) (t : Table α) : Json := .record (t.map fun (k, v) => (k, encode v))

namespace Tool

/-- The fields of a tool. -/
def fields : Fields Tool :=
  mk <$> Fields.required "description" Datum.asText <*>
    Fields.defaulted "input" (Datum.asTable PropertyType.decode) [] <*> Fields.required "output" Datum.asText <*>
    Fields.optional "generator" Datum.asText

/-- The value tree of a tool. -/
def toJson (t : Tool) : Json :=
  .record ([("description", .text t.description), ("input", t.input.toJson PropertyType.toJson),
    ("output", .text t.output)] ++ Json.optional "generator" (t.generator.map .text))

end Tool

namespace Message

/-- The fields of a message. -/
def fields : Fields Message :=
  mk <$> Fields.required "role" (Datum.asVariant Role.names) <*> Fields.required "content" Datum.asText

/-- The value tree of a message. -/
def toJson (m : Message) : Json := .record [("role", .text m.role.name), ("content", .text m.content)]

end Message

namespace Judge

/-- The fields of a judge. -/
def fields : Fields Judge :=
  mk <$> Fields.required "prompt" Datum.asText <*> Fields.required "schema" Datum.asText <*>
    Fields.optional "minScore" Datum.asFloat <*> Fields.optional "model" Datum.asText

/-- The value tree of a judge. -/
def toJson (j : Judge) : Json :=
  .record ([("prompt", .text j.prompt), ("schema", .text j.schema)] ++
    Json.optional "minScore" (j.minScore.map .float) ++ Json.optional "model" (j.model.map .text))

end Judge

namespace Benchmark

/-- The fields of a case. -/
def fields : Fields Benchmark :=
  mk <$> Fields.required "name" Datum.asText <*> Fields.required "messages" (Datum.asList Message.fields.decode) <*>
    Fields.defaulted "tools" (Datum.asList Datum.asText) [] <*> Fields.required "judge" Judge.fields.decode

/-- The value tree of a case. -/
def toJson (b : Benchmark) : Json :=
  .record [("name", .text b.name), ("messages", .list (b.messages.map Message.toJson)), ("tools", Json.texts b.tools),
    ("judge", b.judge.toJson)]

end Benchmark

namespace OptimizerBlock

/-- The fields of the optimizer settings. -/
def fields : Fields OptimizerBlock :=
  mk <$> Fields.optional "model" Datum.asText <*> Fields.optional "iterations" (Datum.asNat Json.maxNat64) <*>
    Fields.optional "strategy" Datum.asText <*> Fields.optional "feedbackPrompt" Datum.asText <*>
    Fields.optional "minPassRate" Datum.asFloat

/-- The value tree of the optimizer settings. -/
def toJson (o : OptimizerBlock) : Json :=
  .record (Json.optional "model" (o.model.map .text) ++ Json.optional "iterations" (o.iterations.map Json.nat) ++
    Json.optional "strategy" (o.strategy.map .text) ++
    Json.optional "feedbackPrompt" (o.feedbackPrompt.map .text) ++
    Json.optional "minPassRate" (o.minPassRate.map .float))

end OptimizerBlock

namespace Specification

/-- The fields of a specification. -/
def fields : Fields Specification :=
  mk <$> Fields.required "metadata" Metadata.fields.decode <*>
    Fields.defaulted "schemas" (Datum.asTable PropertyType.decode) [] <*>
    Fields.defaulted "generators" (Datum.asTable Generator.fields.decode) [] <*>
    Fields.required "agent" Agent.fields.decode <*> Fields.defaulted "tools" (Datum.asTable Tool.fields.decode) [] <*>
    Fields.defaulted "benchmarks" (Datum.asList Benchmark.fields.decode) [] <*>
    Fields.optional "optimizer" OptimizerBlock.fields.decode

/-- Decodes a specification. -/
def decode (d : Datum) : Except Cause Specification := fields.decode d

/-- The value tree of a specification. -/
def toJson (s : Specification) : Json :=
  .record ([("metadata", s.metadata.toJson), ("schemas", s.schemas.toJson PropertyType.toJson)] ++
    (if s.generators.isEmpty then [] else [("generators", s.generators.toJson Generator.toJson)]) ++
    [("agent", s.agent.toJson), ("tools", s.tools.toJson Tool.toJson),
      ("benchmarks", .list (s.benchmarks.map Benchmark.toJson))] ++
    Json.optional "optimizer" (s.optimizer.map OptimizerBlock.toJson))

end Specification

end AgentTrial
