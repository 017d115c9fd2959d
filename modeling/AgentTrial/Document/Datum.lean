import AgentTrial.Json.Basic

/-!
# Datum — a document as it was read

A document of any format becomes one kind of tree before it is given a meaning.  The tree keeps what the meaning may
depend on: the order and the repetitions of fields, scalars whose kind is still open, tags, and the place where a
broken text stopped being a document.  So a meaning that is refused earlier in the text than the break is refused
first.
-/

namespace AgentTrial

/-- Why a document could not be given a meaning. -/
inductive Cause
  /-- The text is not a document. -/
  | malformed
  /-- The text ended before the document did. -/
  | cutShort
  /-- The document has the wrong shape. -/
  | mismatch
  deriving Repr, DecidableEq

/-- What a list may be used for. -/
inductive ListUse
  /-- A list and nothing else. -/
  | items
  /-- Also the fields of a record in their order. -/
  | fields
  /-- Also the fields of a record in their order, with items after them that are passed over. -/
  | leadingFields
  deriving Repr, DecidableEq

/-- A document as it was read. -/
inductive Datum
  | null
  | bool (b : Bool)
  | int (i : Int)
  | float (x : Float)
  | text (s : String)
  /-- A scalar without quotes, whose kind depends on what is wanted. -/
  | plain (s : String)
  | tagged (tag : String) (d : Datum)
  /-- An earlier part of the document, referred to by name; the number is its height. -/
  | repeated (height : Nat) (d : Datum)
  | list (use : ListUse) (items : List Datum)
  | record (fields : List (Datum × Datum))
  /-- An empty collection, which also serves where nothing is wanted. -/
  | vacant (d : Datum)
  /-- A value that may be passed over but not read: a number out of range, a text with half a character, a nesting too
  deep. -/
  | refused (d : Datum)
  /-- The text stops being a document here. -/
  | broken (cause : Cause)
  deriving Repr, Inhabited

namespace Datum

/-- The cause with which a datum is refused when something else is wanted. -/
def refusal : Datum → Cause
  | broken c => c
  | refused _ => .malformed
  | _ => .mismatch

mutual

/-- The break inside a datum, if there is one. -/
def break? : Datum → Option Cause
  | broken c => some c
  | refused d => d.break?
  | vacant d => d.break?
  | tagged _ d => d.break?
  | list _ items => breakItems? items
  | record fields => breakFields? fields
  | _ => none

/-- The first break inside items. -/
def breakItems? : List Datum → Option Cause
  | [] => none
  | d :: items => d.break?.or (breakItems? items)

/-- The first break inside fields. -/
def breakFields? : List (Datum × Datum) → Option Cause
  | [] => none
  | (k, v) :: fields => (k.break?.or v.break?).or (breakFields? fields)

end

mutual

/-- The number of levels of a datum. -/
def height : Datum → Nat
  | list _ items => heightItems items + 1
  | record fields => heightFields fields + 1
  | tagged _ d => d.height + 1
  | refused d => d.height + 1
  | vacant d => d.height
  | repeated n _ => n + 1
  | _ => 1

/-- The number of levels of the highest item. -/
def heightItems : List Datum → Nat
  | [] => 0
  | d :: items => max d.height (heightItems items)

/-- The number of levels of the highest value. -/
def heightFields : List (Datum × Datum) → Nat
  | [] => 0
  | (_, v) :: fields => max v.height (heightFields fields)

end

mutual

/-- A value tree as a document. -/
def ofJson : Json → Datum
  | .null => null
  | .bool b => bool b
  | .int i => int i
  | .float x => float x
  | .text s => text s
  | .list items => list .fields (ofItems items)
  | .record fields => record (ofFields fields)

/-- Items as documents. -/
def ofItems : List Json → List Datum
  | [] => []
  | v :: items => ofJson v :: ofItems items

/-- Fields as documents. -/
def ofFields : List (String × Json) → List (Datum × Datum)
  | [] => []
  | (k, v) :: fields => (text k, ofJson v) :: ofFields fields

end

end Datum

end AgentTrial
