import AgentTrial.Fault
import AgentTrial.Json.Decode

/-!
# Provider — who answers requests for text

A provider answers a request with a text, or with a value tree that follows a schema.  It is given over a monad, like
a test host.
-/

namespace AgentTrial

/-- A request for a text. -/
structure TextRequest where
  model : String
  system : Option String
  prompt : String
  /-- The names of tools that the model may call. -/
  tools : List String
  deriving Repr, DecidableEq, Inhabited

namespace TextRequest

/-- The fields of a request. -/
def fields : Fields TextRequest :=
  mk <$> Fields.required "model" Datum.asText <*> Fields.optional "system" Datum.asText <*>
    Fields.required "prompt" Datum.asText <*> Fields.defaulted "tools" (Datum.asList Datum.asText) []

/-- The value tree of a request. -/
def toJson (r : TextRequest) : Json :=
  .record ([("model", .text r.model)] ++ Json.optional "system" (r.system.map .text) ++
    [("prompt", .text r.prompt)] ++ if r.tools.isEmpty then [] else [("tools", Json.texts r.tools)])

end TextRequest

/-- How many tokens a request took. -/
structure Usage where
  promptTokens : Nat
  completionTokens : Nat
  deriving Repr, DecidableEq, Inhabited

/-- The tokens of both sides. -/
def Usage.total (u : Usage) : Nat := u.promptTokens + u.completionTokens

/-- The answer to a request for a text. -/
structure TextResponse where
  text : String
  usage : Usage
  deriving Repr, DecidableEq, Inhabited

/-- A request for a value tree. -/
structure StructuredRequest where
  model : String
  prompt : String
  schema : Json
  deriving Inhabited

namespace StructuredRequest

/-- The fields of a request. -/
def fields : Fields StructuredRequest :=
  mk <$> Fields.required "model" Datum.asText <*> Fields.required "prompt" Datum.asText <*>
    Fields.required "schema" Datum.asJson

end StructuredRequest

/-- Who answers requests. -/
structure InferenceProvider (m : Type → Type) where
  name : String
  text : TextRequest → m (Except Fault TextResponse)
  structured : StructuredRequest → m (Except Fault Json)

/-- The same provider over another monad. -/
def InferenceProvider.lift {m n : Type → Type} (f : ∀ {α}, m α → n α) (p : InferenceProvider m) :
    InferenceProvider n where
  name := p.name
  text r := f (p.text r)
  structured r := f (p.structured r)

end AgentTrial
