import AgentTrial.Json.Decode
import AgentTrial.Json.Printer
import AgentTrial.Spec.Basic

/-!
# Provided — values given to a program when it runs

Named values in the order of their first naming.  The program reads them as one record with sorted names, so the text
depends on the values alone.
-/

namespace AgentTrial

/-- Named values for a program.  Records inside a value are sorted. -/
structure ProvidedValues where
  values : Table Json
  deriving Inhabited

namespace ProvidedValues

/-- The name of the system prompt. -/
def systemPromptKey : String := "systemPrompt"

/-- The name of the model. -/
def modelKey : String := "model"

/-- No values. -/
def empty : ProvidedValues := ⟨[]⟩

/-- Names a value, in place of one of the same name. -/
def set (p : ProvidedValues) (key : String) (v : Json) : ProvidedValues := ⟨Table.insert key v.canonical p.values⟩

/-- The value of a name. -/
def get? (p : ProvidedValues) (key : String) : Option Json := Table.get? key p.values

/-- The system prompt, if it is a text. -/
def systemPrompt? (p : ProvidedValues) : Option String := (p.get? systemPromptKey).bind Json.text?

/-- The number of values. -/
def size (p : ProvidedValues) : Nat := p.values.length

/-- The values that a specification provides. -/
def ofSpec (s : Specification) : ProvidedValues :=
  (empty.set systemPromptKey (.text s.agent.systemPrompt)).set modelKey (.text s.agent.model)

/-- The values as a record in their order. -/
def toJson (p : ProvidedValues) : Json := .record p.values

/-- The text that the program reads. -/
def render (p : ProvidedValues) : String := (Json.record (Json.sortFields p.values)).compact

/-- Decodes values. -/
def decode (d : Datum) : Except Cause ProvidedValues := mk <$> d.asTable Datum.asJson

/-- Reads values from a text. -/
def ofText (s : String) : Except Cause ProvidedValues := Json.ofText decode s

end ProvidedValues

end AgentTrial
