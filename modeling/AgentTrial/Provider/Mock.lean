import AgentTrial.Provider.Basic
import AgentTrial.Text.Blank

/-!
# Mock — a provider with prepared replies

The replies are given in order, and after them the fallback.  Every request for a text is remembered.
-/

namespace AgentTrial

/-- A provider with prepared replies. -/
structure MockProvider where
  /-- The replies to come; an error is the reason why a request fails. -/
  replies : List (Except String String)
  /-- The reply after the last one. -/
  fallback : Option String
  /-- The reason why every request fails. -/
  broken : Option String
  /-- The answer to requests for value trees. -/
  structured : Option Json
  requests : List TextRequest
  deriving Inhabited

namespace MockProvider

/-- A provider without replies. -/
def empty : MockProvider := ⟨[], none, none, none, []⟩

/-- The next reply, and the replies after it. -/
def next (p : MockProvider) : Except String String × List (Except String String) :=
  match p.broken, p.replies with
  | some reason, replies => (.error reason, replies)
  | none, r :: replies => (r, replies)
  | none, [] => (p.fallback.elim (.error "mock provider script exhausted") .ok, [])

/-- The mock provider as a provider over its own state. -/
def provider : InferenceProvider (StateM MockProvider) where
  name := "mock"
  text r p :=
    let (reply, replies) := p.next
    (match reply with
      | .ok text => .ok ⟨text, Text.wordCount r.prompt, Text.wordCount text⟩
      | .error reason => .error (.provider reason),
      { p with replies, requests := p.requests ++ [r] })
  structured _ p := (p.structured.elim (.error (.provider "no structured reply scripted")) .ok, p)

end MockProvider

end AgentTrial
