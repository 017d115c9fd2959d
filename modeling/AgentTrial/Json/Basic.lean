/-!
# Json — trees of plain values

Null, booleans, numbers, texts, lists and records.  A record keeps its fields in order; `canonical` sorts them and
lets the last of several fields of one name win, at every level.

* `lookup_insertSorted`: after an insertion the inserted field is read, and every other as before.
-/

namespace AgentTrial

/-- A value tree. -/
inductive Json
  | null
  | bool (b : Bool)
  | int (i : Int)
  | float (x : Float)
  | text (s : String)
  | list (items : List Json)
  | record (fields : List (String × Json))
  deriving Repr, Inhabited

namespace Json

/-- The value of the first field of that name. -/
def lookup (key : String) : List (String × Json) → Option Json
  | [] => none
  | (k, v) :: fields => if k = key then some v else lookup key fields

/-- The field of that name, if this is a record with one. -/
def get? (key : String) : Json → Option Json
  | record fields => lookup key fields
  | _ => none

/-- The text, if this is one. -/
def text? : Json → Option String
  | text s => some s
  | _ => none

/-- Is this a record? -/
def isRecord : Json → Bool
  | record _ => true
  | _ => false

/-- Is this null? -/
def isNull : Json → Bool
  | null => true
  | _ => false

/-- Inserts a field into a record sorted by names, in place of a field of the same name. -/
def insertSorted (key : String) (v : Json) : List (String × Json) → List (String × Json)
  | [] => [(key, v)]
  | (k, w) :: fields =>
    if key < k then (key, v) :: (k, w) :: fields
    else if key = k then (key, v) :: fields
    else (k, w) :: insertSorted key v fields

/-- The fields sorted by name; the last of several of one name wins. -/
def sortFields (fields : List (String × Json)) : List (String × Json) :=
  fields.foldl (fun sorted (k, v) => insertSorted k v sorted) []

mutual

/-- The tree with every record sorted. -/
def canonical : Json → Json
  | list items => list (canonicalItems items)
  | record fields => record (sortFields (canonicalFields fields))
  | v => v

/-- The items with every record sorted. -/
def canonicalItems : List Json → List Json
  | [] => []
  | v :: items => v.canonical :: canonicalItems items

/-- The fields with every record below them sorted. -/
def canonicalFields : List (String × Json) → List (String × Json)
  | [] => []
  | (k, v) :: fields => (k, v.canonical) :: canonicalFields fields

end

/-- A list of texts. -/
def texts (ss : List String) : Json := list (ss.map text)

/-- A natural number. -/
def nat (n : Nat) : Json := int n

/-- The text, or null where there is none. -/
def textOrNull : Option String → Json
  | some s => text s
  | none => null

/-- A field that is written only when there is a value. -/
def optional (key : String) : Option Json → List (String × Json)
  | some v => [(key, v)]
  | none => []

theorem lookup_insertSorted (key k : String) (v : Json) (fields : List (String × Json)) :
    lookup k (insertSorted key v fields) = if key = k then some v else lookup k fields := by
  induction fields with
  | nil => rfl
  | cons f fields ih =>
    obtain ⟨j, w⟩ := f
    unfold insertSorted
    split
    · rfl
    · split
      · rename_i h
        subst h
        by_cases hk : key = k <;> simp [lookup, hk]
      · rename_i h
        simp only [lookup, ih]
        by_cases hj : j = k
        · subst hj
          simp [h]
        · simp [hj]

end Json

end AgentTrial
