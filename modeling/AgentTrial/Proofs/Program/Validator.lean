import AgentTrial.Program.Validator
import AgentTrial.Proofs.Program.Telling
import AgentTrial.Text.Search

/-!
# Validator — what a validator expression tells of its type

An expression tells everything of a property type but the names of unknown types.

* `PropertyType.nameless`: a type without the names of unknown types.
* `PropertyType.readWithin`: a reader of expressions, which gives back what follows.
* `PropertyType.readWithin_validatorChars`: it reads an expression to its end and no further, whatever follows.
* `PropertyType.validator_unambiguous`: so expressions are the same for no other types, and none starts another.
-/

namespace AgentTrial.PropertyType

open Text

mutual

/-- A property type without the names of unknown types, at every depth. -/
def nameless : PropertyType → PropertyType
  | string => string
  | number => number
  | boolean => boolean
  | unknown _ => unknown ""
  | object fields => object (namelessFields fields)

/-- Fields without the names of unknown types. -/
def namelessFields : List (String × PropertyType) → List (String × PropertyType)
  | [] => []
  | (name, p) :: fields => (name, p.nameless) :: namelessFields fields

end

/-! ## The reader -/

/-- The expressions that are one word, with what they mean. -/
def words : List (String × PropertyType) :=
  [("z.string()", string), ("z.number()", number), ("z.boolean()", boolean), ("z.any()", unknown ""),
    ("z.object(\x7b\x7d)", object [])]

/-- Reads an expression of one word. -/
def readWord? (s : List Char) : Option (PropertyType × List Char) :=
  words.findSome? fun (word, p) => (after? word.toList s).map fun rest => (p, rest)

/-- Reads the literal of a name. -/
def readName? : List Char → Option (String × List Char)
  | '"' :: s =>
    match Json.lexText s with
    | .token (.text (.text name)) rest => some (name, rest)
    | _ => none
  | _ => none

mutual

/-- Reads an expression, at most so many expressions and fields deep. -/
def readWithin : Nat → List Char → Option (PropertyType × List Char)
  | 0, _ => none
  | n + 1, s =>
    match readWord? s with
    | some x => some x
    | none => do
      let s ← after? "z.object(\x7b ".toList s
      let (fields, s) ← readFieldsWithin n s
      let s ← after? " \x7d)".toList s
      return (object fields, s)

/-- Reads fields, one at least. -/
def readFieldsWithin : Nat → List Char → Option (List (String × PropertyType) × List Char)
  | 0, _ => none
  | n + 1, s => do
    let (name, s) ← readName? s
    let s ← after? [':', ' '] s
    let (p, s) ← readWithin n s
    match after? [',', ' '] s with
    | some s => do
      let (fields, s) ← readFieldsWithin n s
      return ((name, p) :: fields, s)
    | none => return ([(name, p)], s)

end

/-- Reads an expression: its type and what follows it.  It has no more parts than characters. -/
def read? (s : String) : Option (PropertyType × String) :=
  (readWithin (s.length + 1) s.toList).map fun (p, rest) => (p, .ofList rest)

/-! ## Words and names -/

theorem readWord?_word {word : String} {p : PropertyType} (h : (word, p) ∈ words) (rest : List Char) :
    readWord? (word.toList ++ rest) = some (p, rest) := by
  simp only [words, List.mem_cons, Prod.mk.injEq, List.not_mem_nil, or_false] at h
  rcases h with ⟨rfl, rfl⟩ | ⟨rfl, rfl⟩ | ⟨rfl, rfl⟩ | ⟨rfl, rfl⟩ | ⟨rfl, rfl⟩ <;> rfl

theorem readWord?_object (rest : List Char) : readWord? ("z.object(\x7b ".toList ++ rest) = none := by
  rfl

theorem readName?_literalChars (name : String) (rest : List Char) :
    readName? (literalChars name.toList ++ rest) = some (name, rest) := by
  have hspelled := Json.SpelledText.flatMap spelled_escapeChar name.toList
  have hlex : Json.lexText (name.toList.flatMap escapeChar ++ '"' :: rest) =
      .token (.text (.text (.ofList name.toList))) rest := Json.lexText_of_spelled hspelled
  rw [String.ofList_toList] at hlex
  rw [literalChars, List.append_assoc]
  simp only [List.cons_append, List.nil_append, readName?, hlex]

/-! ## Expressions -/

theorem readWithin_word {word : String} {p : PropertyType} (h : (word, p) ∈ words) (n : Nat) (rest : List Char) :
    readWithin (n + 1) (word.toList ++ rest) = some (p, rest) := by
  simp only [readWithin, readWord?_word h]

theorem readWithin_object {n : Nat} {s rest : List Char} {fields : List (String × PropertyType)}
    (h : readFieldsWithin n s = some (fields, " \x7d)".toList ++ rest)) :
    readWithin (n + 1) ("z.object(\x7b ".toList ++ s) = some (object fields, rest) := by
  simp only [readWithin, readWord?_object, after?_append, h, Option.bind_eq_bind, Option.bind_some, Option.pure_def]

theorem readFieldsWithin_last {n : Nat} {name : String} {s rest : List Char} {p : PropertyType}
    (hp : readWithin n s = some (p, rest)) (hrest : after? [',', ' '] rest = none) :
    readFieldsWithin (n + 1) (literalChars name.toList ++ ':' :: ' ' :: s) = some ([(name, p)], rest) := by
  have hcolon : after? [':', ' '] (':' :: ' ' :: s) = some s := after?_append [':', ' '] s
  simp only [readFieldsWithin, readName?_literalChars, hcolon, hp, hrest, Option.bind_eq_bind, Option.bind_some,
    Option.pure_def]

theorem readFieldsWithin_cons {n : Nat} {name : String} {s more rest : List Char} {p : PropertyType}
    {fields : List (String × PropertyType)} (hp : readWithin n s = some (p, ',' :: ' ' :: more))
    (hmore : readFieldsWithin n more = some (fields, rest)) :
    readFieldsWithin (n + 1) (literalChars name.toList ++ ':' :: ' ' :: s) = some ((name, p) :: fields, rest) := by
  have hcolon : after? [':', ' '] (':' :: ' ' :: s) = some s := after?_append [':', ' '] s
  have hcomma : after? [',', ' '] (',' :: ' ' :: more) = some more := after?_append [',', ' '] more
  simp only [readFieldsWithin, readName?_literalChars, hcolon, hp, hcomma, hmore, Option.bind_eq_bind,
    Option.bind_some, Option.pure_def]

theorem after?_comma_brace (rest : List Char) : after? [',', ' '] (" \x7d)".toList ++ rest) = none := by
  rfl

/-- The mark before the fields of an object is longer than the one before a field that is not the first. -/
theorem length_moreFieldChars_le (f : String × PropertyType) (fields : List (String × PropertyType)) :
    (moreFieldChars (f :: fields)).length + 1 ≤ (validatorChars (object (f :: fields))).length := by
  have hbefore : 3 ≤ ("z.object(\x7b ".toList).length := by decide
  rw [validatorChars_object_cons]
  simp only [moreFieldChars, List.length_append, List.length_cons]
  omega

mutual

/-- An expression is read to its end and no further, whatever follows. -/
theorem readWithin_validatorChars : ∀ (p : PropertyType) {n : Nat} (rest : List Char), p.validatorChars.length < n →
    readWithin n (p.validatorChars ++ rest) = some (p.nameless, rest)
  | p, 0, _, h => absurd h (Nat.not_lt_zero _)
  | string, n + 1, rest, _ => readWithin_word (by simp [words, nameless]) n rest
  | number, n + 1, rest, _ => readWithin_word (by simp [words, nameless]) n rest
  | boolean, n + 1, rest, _ => readWithin_word (by simp [words, nameless]) n rest
  | unknown _, n + 1, rest, _ => by
    rw [validatorChars_unknown]
    exact readWithin_word (by simp [words, nameless]) n rest
  | object [], n + 1, rest, _ => readWithin_word (by simp [words, nameless, namelessFields]) n rest
  | object (f :: fields), n + 1, rest, h => by
    -- Each step down takes one from the count and at least one character, a mark, from the text.
    have hlength := length_moreFieldChars_le f fields
    have hfields := readFieldsWithin_fields f fields (n := n) (after?_comma_brace rest) (by omega)
    rw [validatorChars_object_cons]
    simp only [List.append_assoc] at hfields ⊢
    rw [readWithin_object hfields, nameless]

theorem readFieldsWithin_fields : ∀ (f : String × PropertyType) (fields : List (String × PropertyType)) {n : Nat}
    {rest : List Char}, after? [',', ' '] rest = none → (moreFieldChars (f :: fields)).length < n →
    readFieldsWithin n (fieldChars f ++ (moreFieldChars fields ++ rest)) = some (namelessFields (f :: fields), rest)
  | _, _, 0, _, _, h => absurd h (Nat.not_lt_zero _)
  | (name, p), [], n + 1, rest, hrest, h => by
    simp only [moreFieldChars, fieldChars, List.length_append, List.length_cons] at h
    have hp := readWithin_validatorChars p (n := n) rest (by omega)
    simp only [fieldChars, moreFieldChars, List.nil_append, List.append_assoc, List.cons_append]
    exact readFieldsWithin_last hp hrest
  | (name, p), g :: fields, n + 1, rest, hrest, h => by
    -- What stands behind the first expression is no part of it, whatever it is: here it is the next field.
    simp only [moreFieldChars, fieldChars, List.length_append, List.length_cons] at h
    have hp := readWithin_validatorChars p (n := n) (',' :: ' ' :: (fieldChars g ++ (moreFieldChars fields ++ rest)))
      (by omega)
    have hmore := readFieldsWithin_fields g fields (n := n) hrest (by
      simp only [moreFieldChars, List.length_append, List.length_cons]
      omega)
    simp only [fieldChars, moreFieldChars, List.append_assoc, List.cons_append] at hp hmore ⊢
    exact readFieldsWithin_cons hp hmore

end

mutual

/-- The names of unknown types are not in an expression. -/
theorem validatorChars_nameless : ∀ p : PropertyType, p.nameless.validatorChars = p.validatorChars
  | string => rfl
  | number => rfl
  | boolean => rfl
  | unknown _ => by rw [nameless, validatorChars_unknown, validatorChars_unknown]
  | object [] => by rw [nameless, namelessFields]
  | object (f :: fields) => by
    rw [nameless, namelessFields, validatorChars_object_cons, validatorChars_object_cons, fieldChars, fieldChars,
      validatorChars_nameless f.2, moreFieldChars_nameless fields]

theorem moreFieldChars_nameless : ∀ fields : List (String × PropertyType),
    moreFieldChars (namelessFields fields) = moreFieldChars fields
  | [] => rfl
  | (name, p) :: fields => by
    rw [namelessFields, moreFieldChars, moreFieldChars, fieldChars, fieldChars, validatorChars_nameless p,
      moreFieldChars_nameless fields]

end

theorem read?_validator (p : PropertyType) (rest : String) : read? (p.validator ++ rest) = some (p.nameless, rest) := by
  have hread := readWithin_validatorChars p (n := (p.validator ++ rest).length + 1) rest.toList (by
    rw [String.length_append, validator, String.length_ofList]
    omega)
  have htext : (p.validator ++ rest).toList = p.validatorChars ++ rest.toList := by
    rw [String.toList_append, validator, String.toList_ofList]
  rw [read?, htext, hread]
  simp only [Option.map_some, String.ofList_toList]

theorem validator_nameless (p : PropertyType) : p.nameless.validator = p.validator := by
  rw [validator, validator, validatorChars_nameless]

/-- An expression starts with another one only if it is that one, and is then the expression of the same type up to
the names of unknown types. -/
theorem validator_eq_append_iff (p q : PropertyType) (rest : String) :
    q.validator = p.validator ++ rest ↔ q.nameless = p.nameless ∧ rest = "" := by
  constructor
  · intro h
    have hq := read?_validator q ""
    rw [String.append_empty, h, read?_validator p rest] at hq
    obtain ⟨hnameless, hrest⟩ := Prod.mk.inj (Option.some.inj hq)
    exact ⟨hnameless.symm, hrest⟩
  · rintro ⟨hnameless, rfl⟩
    rw [String.append_empty, ← validator_nameless q, hnameless, validator_nameless]

/-- Expressions are unambiguous.  Whatever follows an expression, it is read to its end and no further, and gives its
type but for the names of unknown types; so two expressions are the same text exactly for types that differ in such
names at most, and no expression starts another.  The same holds for the expressions of objects, with their fields. -/
theorem validator_unambiguous :
    (∀ (p : PropertyType) (rest : String), read? (p.validator ++ rest) = some (p.nameless, rest)) ∧
    (∀ p q : PropertyType, p.validator = q.validator ↔ p.nameless = q.nameless) ∧
    (∀ (p q : PropertyType) (rest : String),
      q.validator = p.validator ++ rest ↔ q.nameless = p.nameless ∧ rest = "") ∧
    (∀ (fields : Table PropertyType) (rest : String),
      read? (objectValidator fields ++ rest) = some (object (namelessFields fields), rest)) ∧
    (∀ fields others : Table PropertyType,
      objectValidator fields = objectValidator others ↔ namelessFields fields = namelessFields others) ∧
    ∀ (fields others : Table PropertyType) (rest : String),
      objectValidator others = objectValidator fields ++ rest ↔
        namelessFields others = namelessFields fields ∧ rest = "" := by
  have heq (p q : PropertyType) : p.validator = q.validator ↔ p.nameless = q.nameless := by
    simpa using validator_eq_append_iff q p ""
  have hobject (fields others : Table PropertyType) :
      (object fields).nameless = (object others).nameless ↔ namelessFields fields = namelessFields others := by
    rw [nameless, nameless, object.injEq]
  refine ⟨read?_validator, heq, validator_eq_append_iff, fun fields rest => ?_, fun fields others => ?_,
    fun fields others rest => ?_⟩
  · rw [objectValidator, read?_validator, nameless]
  · rw [objectValidator, objectValidator, heq, hobject]
  · rw [objectValidator, objectValidator, validator_eq_append_iff, hobject]

end AgentTrial.PropertyType
