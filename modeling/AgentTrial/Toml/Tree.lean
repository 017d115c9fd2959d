import AgentTrial.Document.Datum

/-!
# Tree — tables under construction

A document names a table by a header, by a key with points, or only as the way to another table.  How a table came to
be decides whether it may be named or extended again.
-/

namespace AgentTrial.Toml

/-- How a table came to be. -/
inductive Origin
  /-- It has a header of its own, or braces. -/
  | declared
  /-- A header leads through it. -/
  | implied
  /-- A key with points leads through it. -/
  | dotted
  deriving Repr, DecidableEq

/-- A part of a document. -/
inductive Item
  | value (d : Datum)
  | table (origin : Origin) (fields : List (String × Item))
  /-- A list of tables, the last one first; it is never empty. -/
  | tables (last : List (String × Item)) (before : List (List (String × Item)))
  deriving Inhabited

/-- The fields of a table. -/
abbrev ItemFields := List (String × Item)

/-- The item of a key. -/
def find? (key : String) : ItemFields → Option Item
  | [] => none
  | (k, i) :: fields => if k = key then some i else find? key fields

/-- Sets the item of a key. -/
def set (key : String) (i : Item) : ItemFields → ItemFields
  | [] => [(key, i)]
  | (k, j) :: fields => if k = key then (key, i) :: fields else (k, j) :: set key i fields

/-- Adds a value to a table under a key with points.  `current` says whether this table is the one that the line
belongs to; it may then not end here without a point. -/
def assign (origin : Option Origin) (v : Datum) : List String → ItemFields → Option ItemFields
  | [], _ => none
  | [key], fields =>
    if origin = none || origin = some .dotted then
      match find? key fields with
      | none => some (set key (.value v) fields)
      | some _ => none
    else none
  | key :: keys, fields =>
    match find? key fields with
    | none => do
      let below ← assign (some .dotted) v keys []
      return set key (.table .dotted below) fields
    | some (.value _) => none
    | some (.table origin below) =>
      if origin = .declared then none
      else do
        let below ← assign (some origin) v keys below
        return set key (.table origin below) fields
    | some (.tables last before) => do
      let last ← assign (some .declared) v keys last
      return set key (.tables last before) fields

/-- Changes the table that a header leads to; tables on the way are made. -/
def update (change : String → ItemFields → Option ItemFields) : List String → ItemFields → Option ItemFields
  | [], _ => none
  | [key], fields => change key fields
  | key :: keys, fields =>
    match find? key fields with
    | none => do
      let below ← update change keys []
      return set key (.table .implied below) fields
    | some (.value _) => none
    | some (.table origin below) => do
      let below ← update change keys below
      return set key (.table origin below) fields
    | some (.tables last before) => do
      let last ← update change keys last
      return set key (.tables last before) fields

/-- Declares a table. -/
def declare (key : String) (fields : ItemFields) : Option ItemFields :=
  match find? key fields with
  | none => some (set key (.table .declared []) fields)
  | some (.table .implied below) => some (set key (.table .declared below) fields)
  | some _ => none

/-- Adds a table to a list of tables. -/
def append (key : String) (fields : ItemFields) : Option ItemFields :=
  match find? key fields with
  | none => some (set key (.tables [] []) fields)
  | some (.tables last before) => some (set key (.tables [] (last :: before)) fields)
  | some _ => none

/-- Adds a value to the table of a header. -/
def assignIn (keys : List String) (v : Datum) (key : String) (fields : ItemFields) : Option ItemFields :=
  match find? key fields with
  | some (.table origin below) => do
    let below ← assign none v keys below
    return set key (.table origin below) fields
  | some (.tables last before) => do
    let last ← assign none v keys last
    return set key (.tables last before) fields
  | _ => none

/-- An empty collection also stands for nothing. -/
def markVacant : Datum → Datum
  | .record [] => .vacant (.record [])
  | .list use [] => .vacant (.list use [])
  | d => d

mutual

/-- An item as a document. -/
def Item.toDatum : Item → Datum
  | .value d => d
  | .table _ fields => markVacant (.record (toFields fields))
  | .tables last before => .list .leadingFields (toRecords before ++ [markVacant (.record (toFields last))])

/-- The fields of a table as fields of a document. -/
def toFields : List (String × Item) → List (Datum × Datum)
  | [] => []
  | (k, i) :: fields => (.text k, i.toDatum) :: toFields fields

/-- Tables in reverse as records in order. -/
def toRecords : List (List (String × Item)) → List Datum
  | [] => []
  | fields :: before => toRecords before ++ [markVacant (.record (toFields fields))]

end

end AgentTrial.Toml
