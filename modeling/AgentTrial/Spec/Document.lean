import AgentTrial.Json.Printer
import AgentTrial.Spec.Codec
import AgentTrial.Spec.Problem
import AgentTrial.Store.Path
import AgentTrial.Yaml.Node
import AgentTrial.Yaml.Printer

/-!
# Document — specifications as text

Two formats, picked by the extension of a file name.  Reading gives a specification without looking for problems;
`Specification.ofText` with `validate` after it is what loading a file does.
-/

namespace AgentTrial

/-- The format of a document. -/
inductive DocumentFormat
  | yaml
  | json
  deriving Repr, DecidableEq, Inhabited

namespace DocumentFormat

/-- The word for a format. -/
def name : DocumentFormat → String
  | yaml => "yaml"
  | json => "json"

/-- The format of a file: the value tree format for the extension `json` in any case, else block documents. -/
def ofPath (path : String) : DocumentFormat :=
  match Path.extension? path with
  | some ext => if ext.toLower == "json" then json else yaml
  | none => yaml

/-- Decodes a text in a format. -/
def decode {α : Type} (f : DocumentFormat) (d : Datum → Except Cause α) (s : String) : Except Cause α :=
  match f with
  | yaml => Yaml.ofText d s
  | json => Json.ofText d s

/-- A value tree in a format; a document ends with a line feed. -/
def render (f : DocumentFormat) (v : Json) : String :=
  match f with
  | yaml => Yaml.render v
  | json => v.pretty ++ "\n"

end DocumentFormat

namespace Specification

/-- Reads a specification. -/
def ofText (f : DocumentFormat) (s : String) : Except Cause Specification := f.decode decode s

/-- Writes a specification. -/
def render (f : DocumentFormat) (s : Specification) : String := f.render s.toJson

end Specification

end AgentTrial
