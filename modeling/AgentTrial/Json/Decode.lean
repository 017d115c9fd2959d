import AgentTrial.Document.Decode
import AgentTrial.Json.Reader

/-!
# Decode — value trees from text

`ofText` reads a whole text with a decoder; blanks may follow the value and nothing else.
-/

namespace AgentTrial

mutual

/-- The value tree of a datum, with the fields of every record sorted. -/
def Datum.asJson : Datum → Except Cause Json
  | .null => .ok .null
  | .bool b => .ok (.bool b)
  | .int i => .ok (.int i)
  | .float x => .ok (.float x)
  | .text s => .ok (.text s)
  | .plain s => .ok (.text s)
  | .tagged _ d => d.asJson
  | .repeated _ d => d.asJson
  | .vacant d => d.asJson
  | .list _ items => .list <$> Datum.asJsonItems items
  | .record fields => (fun fs => .record (Json.sortFields fs)) <$> Datum.asJsonFields fields
  | .refused _ => .error .malformed
  | .broken c => .error c

/-- The value trees of items. -/
def Datum.asJsonItems : List Datum → Except Cause (List Json)
  | [] => .ok []
  | d :: items => do
    let v ← d.asJson
    return v :: (← Datum.asJsonItems items)

/-- The value trees of fields. -/
def Datum.asJsonFields : List (Datum × Datum) → Except Cause (List (String × Json))
  | [] => .ok []
  | (k, d) :: fields => do
    let k ← k.asText
    let v ← d.asJson
    return (k, v) :: (← Datum.asJsonFields fields)

end

namespace Json

/-- Decodes a whole text. -/
def ofText {α : Type} (decode : Datum → Except Cause α) (s : String) : Except Cause α :=
  match readFirst s.toList with
  | (d, none) =>
    match decode d with
    | .error c => .error c
    | .ok _ => .error (d.break?.getD .malformed)
  | (d, some rest) => do
    let a ← decode d
    if (rest.dropWhile isSpace).isEmpty then .ok a else .error .malformed

/-- The value tree of a text. -/
def parse (s : String) : Except Cause Json := ofText Datum.asJson s

end Json

end AgentTrial
