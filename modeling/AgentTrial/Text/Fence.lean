import AgentTrial.Text.Blank
import AgentTrial.Text.Search

/-!
# Fence — texts inside a code fence

A reply may come wrapped in a fence: three backticks and an info line, a body, three backticks.  `unfence` gives the
body; a text without a fence is only trimmed.
-/

namespace AgentTrial.Text

/-- The three backticks of a fence. -/
def fence : List Char := ['`', '`', '`']

/-- What follows the first line feed. -/
def afterLine? : List Char → Option (List Char)
  | [] => none
  | c :: s => if c = '\n' then some s else afterLine? s

/-- The body of a fenced text, trimmed, or the trimmed text.  An opening fence without a closing one and without a
second line has no body. -/
def unfenceChars (s : List Char) : List Char :=
  let t := trimChars s
  match after? fence t with
  | none => t
  | some rest =>
    let closed := dropEnd? fence rest
    let body := closed.getD rest
    match afterLine? body with
    | some inner => trimChars inner
    | none => if closed.isSome then trimChars body else []

/-- The body of a fenced text. -/
def unfence (s : String) : String := .ofList (unfenceChars s.toList)

end AgentTrial.Text
