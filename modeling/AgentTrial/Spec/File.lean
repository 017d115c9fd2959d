import AgentTrial.Fault
import AgentTrial.Spec.Document

/-!
# File — specifications in files

The format follows the extension of the path.  Loading looks for problems, saving does not.
-/

namespace AgentTrial

namespace DocumentFormat

/-- The fault of a document in a format. -/
def fault (f : DocumentFormat) (c : Cause) : Fault :=
  match f with
  | yaml => .yaml c
  | json => .json c

end DocumentFormat

namespace Specification

/-- Reads a specification and looks for problems. -/
def ofValidText (f : DocumentFormat) (text : String) : Except Fault Specification :=
  match ofText f text with
  | .error c => .error (f.fault c)
  | .ok s =>
    match s.validate with
    | .error p => .error (.invalid p)
    | .ok () => .ok s

/-- Loads a specification from a file. -/
def load (store : Store) (path : String) : Except Fault Specification :=
  match store.readText [] path with
  | .error e => .error (.store e)
  | .ok text => ofValidText (.ofPath path) text

/-- Writes a specification to a file, in directories made for it. -/
def save (path : String) (s : Specification) (store : Store) : Except Fault Store :=
  match store.writeDeep [] path (s.render (.ofPath path)).toUTF8 with
  | .error e => .error (.store e)
  | .ok store => .ok store

end Specification

end AgentTrial
