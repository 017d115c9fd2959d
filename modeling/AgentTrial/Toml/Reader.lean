import AgentTrial.Document.Decode
import AgentTrial.Toml.Scalar
import AgentTrial.Toml.Tree

/-!
# Reader — settings documents

A document is a sequence of lines: blank ones, headers of tables, and keys with values.  A value may go on over several
lines inside brackets.
-/

namespace AgentTrial.Toml

/-- Drops a comment up to the end of its line. -/
def skipComment : List Char → List Char
  | '#' :: s => s.dropWhile isLineChar
  | s => s

/-- Drops blanks, comments and line ends. -/
def skipBlank : Nat → List Char → List Char
  | 0, s => s
  | fuel + 1, s =>
    let rest := skipComment (skipGaps s)
    match newline? rest with
    | some rest => skipBlank fuel rest
    | none => rest

/-- The end of a line, after blanks and a comment. -/
def endLine? (s : List Char) : Option (List Char) :=
  match skipComment (skipGaps s) with
  | [] => some []
  | s => newline? s

mutual

/-- A value at a depth, and the rest. -/
def value? (depth : Nat) : Nat → List Char → Option (Datum × List Char)
  | 0, _ => none
  | fuel + 1, s =>
    match s with
    | '[' :: s =>
      if maxDepth ≤ depth then none
      else do
        let (items, s) ← items? (depth + 1) fuel s
        return (markVacant (.list .leadingFields items), s)
    | '{' :: s =>
      if maxDepth ≤ depth then none
      else do
        match skipGaps s with
        | '}' :: s => return (.vacant (.record []), s)
        | s =>
          let (fields, s) ← fields? (depth + 1) fuel [] s
          return (.record (toFields fields), s)
    | s => scalar? s
termination_by structural fuel => fuel

/-- The items of a list, up to its bracket. -/
def items? (depth : Nat) : Nat → List Char → Option (List Datum × List Char)
  | 0, _ => none
  | fuel + 1, s =>
    match skipBlank (s.length + 1) s with
    | ']' :: s => some ([], s)
    | s => do
      let (d, s) ← value? depth fuel s
      match skipBlank (s.length + 1) s with
      | ']' :: s => return ([d], s)
      | ',' :: s =>
        let (ds, s) ← items? depth fuel s
        return (d :: ds, s)
      | _ => none
termination_by structural fuel => fuel

/-- The fields of a table in braces, up to its brace. -/
def fields? (depth : Nat) : Nat → ItemFields → List Char → Option (ItemFields × List Char)
  | 0, _, _ => none
  | fuel + 1, fields, s => do
    let (key, s) ← key? maxDepth s
    let (d, s) ← value? depth fuel (skipGaps (← mark? '=' s))
    let fields ← assign none d key fields
    match skipGaps s with
    | '}' :: s => return (fields, s)
    | ',' :: s => fields? depth fuel fields s
    | _ => none
termination_by structural fuel => fuel

end

/-- A document so far: its tables and the header that the next lines belong to. -/
structure Reading where
  root : ItemFields
  header : List String
  deriving Inhabited

namespace Reading

/-- Reads the header of a table. -/
def declareTable (r : Reading) (s : List Char) : Option (Reading × List Char) := do
  let (key, s) ← key? maxDepth s
  let root ← update declare key r.root
  return (⟨root, key⟩, ← endLine? (← mark? ']' s))

/-- Reads the header of a table in a list. -/
def appendTable (r : Reading) (s : List Char) : Option (Reading × List Char) := do
  let (key, s) ← key? maxDepth s
  let root ← update append key r.root
  return (⟨root, key⟩, ← endLine? (← mark? ']' (← mark? ']' s)))

/-- Reads a key and its value. -/
def assignKey (r : Reading) (s : List Char) : Option (Reading × List Char) := do
  let (key, s) ← key? maxDepth s
  let s := skipGaps (← mark? '=' s)
  let (d, s) ← value? 0 (2 * s.length + 4) s
  let root ← if r.header.isEmpty then assign none d key r.root else update (assignIn key d) r.header r.root
  return ({ r with root }, ← endLine? s)

/-- Reads one line that is not blank. -/
def line (r : Reading) : List Char → Option (Reading × List Char)
  | '[' :: '[' :: s => r.appendTable s
  | '[' :: s => r.declareTable s
  | s => r.assignKey s

end Reading

/-- Reads the lines of a document. -/
def lines : Nat → Reading → List Char → Option Reading
  | 0, _, _ => none
  | fuel + 1, r, s =>
    match skipGaps (skipBlank (s.length + 1) s) with
    | [] => some r
    | s => do
      let (r, s) ← r.line s
      lines fuel r s

/-- Drops a byte order mark. -/
def skipMark : List Char → List Char
  | '\uFEFF' :: s => s
  | s => s

/-- Reads a document. -/
def read? (s : List Char) : Option Datum := do
  let r ← lines (s.length + 1) default (skipMark s)
  return markVacant (.record (toFields r.root))

/-- Decodes a document. -/
def ofText {α : Type} (decode : Datum → Except Cause α) (s : String) : Except Cause α :=
  match read? s.toList with
  | some d => decode d
  | none => .error .malformed

end AgentTrial.Toml
