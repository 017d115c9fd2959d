/-!
# Path — paths of files

A path is a text with slashes.  Empty parts and parts that are a single point name nothing, so `a//b/.` has the parts
`a` and `b`.
-/

namespace AgentTrial.Path

/-- A list of characters cut at every slash. -/
def splitSlash : List Char → List (List Char)
  | [] => [[]]
  | c :: s =>
    match splitSlash s with
    | [] => [[c]]
    | p :: ps => if c = '/' then [] :: p :: ps else (c :: p) :: ps

/-- The parts of a path. -/
def parts (path : String) : List String :=
  ((splitSlash path.toList).map String.ofList).filter fun p => p != "" && p != "."

/-- Does the path start at the root? -/
def isAbsolute (path : String) : Bool := path.toList.head? = some '/'

/-- The last part of a path, unless it leads upwards. -/
def fileName? (path : String) : Option String := (parts path).getLast?.filter (· != "..")

/-- The extension of a file name: what follows its last point, unless that point comes first. -/
def extension? (path : String) : Option String := do
  let name := (← fileName? path).toList
  let ext := (name.reverse.takeWhile (· != '.')).reverse
  if ext.length + 1 < name.length then return .ofList ext else none

/-- The path without its last part. -/
def parent (path : String) : String :=
  let names := (parts path).dropLast
  (if isAbsolute path then "/" else "") ++ "/".intercalate names

/-- A path in reverse without the slashes and single points at its end. -/
def trimTail : List Char → List Char
  | ['/'] => ['/']
  | '.' :: '/' :: s => trimTail ('/' :: s)
  | '/' :: s => trimTail s
  | s => s
termination_by s => s.length

/-- The directory of a path as it is written, unless the path is that of the working directory or the root. -/
def directory? (path : String) : Option String :=
  match trimTail path.toList.reverse with
  | ['/'] => none
  | s =>
    match trimTail (s.dropWhile (· ≠ '/')) with
    | [] => none
    | dir => some (.ofList dir.reverse)

/-- One path below another. -/
def join (dir name : String) : String :=
  if isAbsolute name || dir.isEmpty then name
  else if dir.toList.getLast? = some '/' then dir ++ name
  else dir ++ "/" ++ name

end AgentTrial.Path
