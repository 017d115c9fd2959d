import AgentTrial.Document.Decode
import AgentTrial.Shell.Pattern
import AgentTrial.Shell.Script
import AgentTrial.Store.Basic
import AgentTrial.Text.Lossy

/-!
# Session — a shell at work

A session has files, variables, arguments, an input and channels for what it writes.  What is written to a channel goes
to a buffer or to a file.  An `Act` changes the session and may leave what it is part of: a round of a loop, a loop,
the shell.
-/

namespace AgentTrial.Shell

/-- Where a channel leads. -/
inductive Channel
  | buffer (n : Nat)
  | file (place : Location)
  | closed
  deriving Repr, DecidableEq

/-- A shell at work. -/
structure Session where
  store : Store
  /-- The working directory. -/
  place : Location
  vars : Table String
  /-- The names of the variables that commands see. -/
  exported : List String
  /-- The name that the shell goes by. -/
  name : String
  args : List String
  /-- How the last command ended. -/
  status : Nat
  /-- What is not read yet. -/
  input : ByteArray
  out : Channel
  err : Channel
  buffers : Array ByteArray
  /-- The number of the process. -/
  process : Nat
  /-- The letters of the options that are on. -/
  options : List Char
  /-- Is the end of a command asked for, so that a failure is no reason to leave? -/
  asked : Bool

/-- Why what follows is not run. -/
inductive Leave
  | shell
  | loop (n : Nat)
  | round (n : Nat)
  | killed (process signal : Nat)
  /-- The run takes too long. -/
  | endless
  deriving Repr, DecidableEq

/-- What a shell does. -/
abbrev Act (α : Type) := ExceptT Leave (StateM Session) α

namespace Session

/-- Writes to a channel. -/
def emit (s : Session) (c : Channel) (data : ByteArray) : Session :=
  match c with
  | .buffer n => { s with buffers := s.buffers.modify n (· ++ data) }
  | .file place =>
    match s.store.look? place with
    | some (.file old) => { s with store := s.store.put place (.file (old ++ data)) }
    | _ => s
  | .closed => s

/-- The value of a variable. -/
def var? (s : Session) (name : String) : Option String := Table.get? name s.vars

/-- Sets a variable. -/
def setVar (s : Session) (name value : String) : Session := { s with vars := Table.insert name value s.vars }

/-- Forgets a variable. -/
def unsetVar (s : Session) (name : String) : Session :=
  { s with vars := s.vars.filter (·.1 != name), exported := s.exported.filter (· != name) }

/-- Shows a variable to commands. -/
def publish (s : Session) (name : String) : Session :=
  if s.exported.contains name then s else { s with exported := s.exported ++ [name] }

/-- The variables that commands see. -/
def environment (s : Session) : Table String := s.vars.filter fun (name, _) => s.exported.contains name

/-- The characters that separate fields. -/
def separators (s : Session) : List Char := ((s.var? "IFS").getD " \t\n").toList

/-- The value of a parameter.  A list of arguments has one value here. -/
def parameter? (s : Session) (name : String) : Option String :=
  match name.toList with
  | ['#'] => some (toString s.args.length)
  | ['?'] => some (toString s.status)
  | ['$'] => some (toString s.process)
  | ['-'] => some (.ofList s.options)
  | ['!'] => none
  | ['0'] => some s.name
  | ['@'] => if s.args.isEmpty then none else some (" ".intercalate s.args)
  | ['*'] =>
    if s.args.isEmpty then none
    else some ((String.ofList (s.separators.take 1)).intercalate s.args)
  | c :: cs =>
    if c.isDigit then s.args[(c :: cs).foldl (fun n d => n * 10 + (d.toNat - '0'.toNat)) 0 - 1]? else s.var? name
  | [] => none

end Session

/-- Writes bytes to the output. -/
def say (data : ByteArray) : Act Unit := modify fun s => s.emit s.out data

/-- Writes a text to the output. -/
def sayText (text : String) : Act Unit := say text.toUTF8

/-- Writes a line to the errors. -/
def complain (line : String) : Act Unit := modify fun s => s.emit s.err (line ++ "\n").toUTF8

/-- Sets how the last command ended. -/
def finish (status : Nat) : Act Unit := modify fun s => { s with status }

/-- Complains in the name of the shell. -/
def warn (line : String) : Act Unit := do complain ((← get).name ++ ": 1: " ++ line)

/-- Complains and leaves the shell. -/
def giveUp {α : Type} (line : String) : Act α := do
  warn line
  finish 2
  throw .shell

/-- Reads all of the input. -/
def readAll : Act ByteArray := do
  let s ← get
  set { s with input := .empty }
  return s.input

/-- Acts as a process of its own: files, buffers and input change for good, the rest does not. -/
def inSubshell (act : Act Unit) : Act Unit := fun s =>
  let (r, t) := act s
  let after := { s with store := t.store, buffers := t.buffers, input := t.input, status := t.status }
  match r with
  | .error .endless => (.error .endless, after)
  | .error (.killed p n) => (.error (.killed p n), after)
  | _ => (.ok (), after)

/-- Acts with the output in a buffer, and gives what is in it. -/
def captured (act : Act Unit) : Act ByteArray := fun s =>
  let (r, t) := act { s with buffers := s.buffers.push .empty, out := .buffer s.buffers.size }
  let data := (t.buffers[s.buffers.size]?).getD .empty
  (r.map fun _ => data, { t with buffers := t.buffers.take s.buffers.size, out := s.out })

/-- Acts with another input. -/
def fed (data : ByteArray) (act : Act Unit) : Act Unit := fun s =>
  let (r, t) := act { s with input := data }
  (r, { t with input := s.input })

/-- Acts while the end of commands is asked for. -/
def asking (act : Act Unit) : Act Unit := fun s =>
  let (r, t) := act { s with asked := true }
  (r, { t with asked := s.asked })

/-- Acts as a round of a loop, and says whether the loop goes on. -/
def asRound (act : Act Unit) : Act Bool := fun s =>
  match act s with
  | (.ok (), t) => (.ok true, t)
  | (.error (.loop n), t) => (if n ≤ 1 then .ok false else .error (.loop (n - 1)), t)
  | (.error (.round n), t) => (if n ≤ 1 then .ok true else .error (.round (n - 1)), t)
  | (.error e, t) => (.error e, t)

end AgentTrial.Shell
