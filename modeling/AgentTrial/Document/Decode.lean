import AgentTrial.Document.Datum
import AgentTrial.Document.Plain

/-!
# Decode — giving a document its meaning

One decoder per wanted kind, for documents of every format.  A record is decoded by `Fields`, which takes the fields
in the order of the document and so refuses the first fault first: a repeated field before its value, a missing field
at the end of the record.  Fields that nothing wants are passed over.
-/

namespace AgentTrial

/-- A table from names to values in the order of their first insertion. -/
abbrev Table (α : Type) := List (String × α)

namespace Table

variable {α β : Type}

/-- Sets the value of a name, at its place if it has one and at the end if not. -/
def insert (key : String) (v : α) : Table α → Table α
  | [] => [(key, v)]
  | (k, w) :: t => if k = key then (k, v) :: t else (k, w) :: insert key v t

/-- The value of a name. -/
def get? (key : String) : Table α → Option α
  | [] => none
  | (k, v) :: t => if k = key then some v else get? key t

/-- Does the name have a value? -/
def has (t : Table α) (key : String) : Bool := (get? key t).isSome

/-- The names in order. -/
def keys (t : Table α) : List String := t.map Prod.fst

/-- The table of a list of pairs; the last value of a name wins. -/
def ofPairs (pairs : List (String × α)) : Table α := pairs.foldl (fun t (k, v) => insert k v t) []

theorem get?_insert (key k : String) (v : α) (t : Table α) :
    get? k (insert key v t) = if key = k then some v else get? k t := by
  induction t with
  | nil => rfl
  | cons p t ih =>
    obtain ⟨j, w⟩ := p
    unfold insert
    split
    · rename_i h
      subst h
      by_cases hk : j = k <;> simp [get?, hk]
    · rename_i h
      simp only [get?, ih]
      by_cases hj : j = k
      · subst hj
        simp [Ne.symm h]
      · simp [hj]

end Table

namespace Datum

/-- The tag of a null. -/
def nullTag : String := "tag:yaml.org,2002:null"

/-- A text; a scalar without quotes is its own text. -/
def asText : Datum → Except Cause String
  | text s => .ok s
  | plain s => .ok s
  | tagged _ d => d.asText
  | repeated _ d => d.asText
  | d => .error d.refusal

/-- A boolean. -/
def asBool : Datum → Except Cause Bool
  | bool b => .ok b
  | plain s => (Document.Plain.bool? s).elim (.error .mismatch) .ok
  | tagged _ d => d.asBool
  | repeated _ d => d.asBool
  | d => .error d.refusal

/-- A natural number up to a bound. -/
def asNat (bound : Nat) : Datum → Except Cause Nat
  | int i => if 0 ≤ i ∧ i ≤ bound then .ok i.toNat else .error .mismatch
  | plain s =>
    match Document.Plain.nat? s.toList with
    | some n => if n ≤ bound then .ok n else .error .mismatch
    | none => .error .mismatch
  | tagged _ d => d.asNat bound
  | repeated _ d => d.asNat bound
  | d => .error d.refusal

/-- The double nearest to an integer of sixty-four bits. -/
def floatOfInt (i : Int) : Float :=
  if i < 0 then -i.natAbs.toUInt64.toFloat else i.natAbs.toUInt64.toFloat

/-- A double; an integer is one too. -/
def asFloat : Datum → Except Cause Float
  | float x => .ok x
  | int i => .ok (floatOfInt i)
  | plain s => (Document.Plain.float? s).elim (.error .mismatch) .ok
  | tagged _ d => d.asFloat
  | repeated _ d => d.asFloat
  | d => .error d.refusal

/-- A value that may be absent: null, a word for null or an empty scalar without quotes. -/
def asOption {α : Type} (decode : Datum → Except Cause α) : Datum → Except Cause (Option α)
  | null => .ok none
  | plain s => if s.isEmpty || Document.Plain.isNull s then .ok none else some <$> decode (plain s)
  | tagged tag (plain s) =>
    if tag == nullTag then if Document.Plain.isNull s then .ok none else .error .mismatch
    else some <$> decode (tagged tag (plain s))
  | repeated _ d => d.asOption decode
  | d => some <$> decode d

/-- Is this null where nothing but null is wanted? -/
def isUnit : Datum → Bool
  | null => true
  | plain s => s.isEmpty || Document.Plain.isNull s
  | tagged _ d => d.isUnit
  | repeated _ d => d.isUnit
  | vacant _ => true
  | _ => false

/-- A list. -/
def asList {α : Type} (decode : Datum → Except Cause α) : Datum → Except Cause (List α)
  | list _ items => items.mapM decode
  | plain s => if s.isEmpty then .ok [] else .error .mismatch
  | tagged _ d => d.asList decode
  | repeated _ d => d.asList decode
  | vacant d => d.asList decode
  | d => .error d.refusal

/-- The fields of a record. -/
def asFields : Datum → Except Cause (List (Datum × Datum))
  | record fields => .ok fields
  | plain s => if s.isEmpty then .ok [] else .error .mismatch
  | tagged _ d => d.asFields
  | repeated _ d => d.asFields
  | vacant d => d.asFields
  | d => .error d.refusal

/-- A table; the last value of a name wins. -/
def asTable {α : Type} (decode : Datum → Except Cause α) (d : Datum) : Except Cause (Table α) := do
  let fields ← d.asFields
  let pairs ← fields.mapM fun (k, v) => return (← k.asText, ← decode v)
  return Table.ofPairs pairs

/-- The value of a name among named values. -/
def named {α : Type} (names : List (String × α)) (s : String) : Except Cause α :=
  (Table.get? s names).elim (.error .mismatch) .ok

/-- One of several named values: its name, a tag that is its name, or a record with that one field and null. -/
def asVariant {α : Type} (names : List (String × α)) : Datum → Except Cause α
  | text s => named names s
  | plain s => named names s
  | tagged tag d =>
    if tag.startsWith "!" then do
      let v ← named names (tag.drop 1).toString
      if d.isUnit then .ok v else .error .mismatch
    else d.asVariant names
  | repeated _ d => d.asVariant names
  | record ((k, v) :: rest) => do
    let v' ← named names (← k.asText)
    match v, rest with
    | null, [] => .ok v'
    | vacant _, [] => .ok v'
    | null, (d, _) :: _ => .error (if d.refusal == .cutShort then .cutShort else .malformed)
    | d, _ => .error d.refusal
  | broken c => .error c
  | _ => .error .malformed

end Datum

/-- A decoder for the fields of a record: what it knows so far, how a field changes that, and what comes out at the
end.  `positional` decodes a list of the values in order instead. -/
structure Fields (α : Type) where
  State : Type
  start : State
  take : String → Datum → State → Option (Except Cause State)
  finish : State → Except Cause α
  positional : List Datum → Except Cause (α × List Datum)

namespace Fields

variable {α β : Type}

instance : Applicative Fields where
  pure a := ⟨Unit, (), fun _ _ _ => none, fun _ => .ok a, fun ds => .ok (a, ds)⟩
  seq f x :=
    let x := x ()
    { State := f.State × x.State
      start := (f.start, x.start)
      take := fun k d (s, t) =>
        match f.take k d s with
        | some s => some ((·, t) <$> s)
        | none => (x.take k d t).map ((s, ·) <$> ·)
      finish := fun (s, t) => return (← f.finish s) (← x.finish t)
      positional := fun ds => do
        let (g, ds) ← f.positional ds
        let (a, ds) ← x.positional ds
        return (g a, ds) }

/-- A field that may be absent for a default value. -/
def withDefault (key : String) (decode : Datum → Except Cause α) (default : Except Cause α) : Fields α where
  State := Option α
  start := none
  take k d s :=
    if k = key then some (if s.isSome then .error .mismatch else some <$> decode d) else none
  finish s := s.elim default .ok
  positional
    | [] => (·, []) <$> default
    | d :: ds => (·, ds) <$> decode d

/-- A field that has to be there. -/
def required (key : String) (decode : Datum → Except Cause α) : Fields α :=
  withDefault key decode (.error .mismatch)

/-- A field with a default value. -/
def defaulted (key : String) (decode : Datum → Except Cause α) (a : α) : Fields α := withDefault key decode (.ok a)

/-- A field that may be absent or null. -/
def optional (key : String) (decode : Datum → Except Cause α) : Fields (Option α) :=
  withDefault key (Datum.asOption decode) (.ok none)

/-- The state after one field of the document. -/
def takeField (f : Fields α) (s : f.State) (field : Datum × Datum) : Except Cause f.State := do
  let k ← field.1.asText
  match f.take k field.2 s with
  | some s => s
  | none => field.2.break?.elim (.ok s) .error

/-- The state after the fields of the document. -/
def takeFields (f : Fields α) : f.State → List (Datum × Datum) → Except Cause f.State
  | s, [] => .ok s
  | s, d :: ds => do f.takeFields (← f.takeField s d) ds

/-- Decodes a record. -/
def decode (f : Fields α) : Datum → Except Cause α
  | .list .fields items => do
    let (a, rest) ← f.positional items
    if rest.isEmpty then .ok a else .error .malformed
  | .list .leadingFields items => Prod.fst <$> f.positional items
  | .vacant d => f.decode d
  | d => do f.finish (← f.takeFields f.start (← d.asFields))

end Fields

end AgentTrial
