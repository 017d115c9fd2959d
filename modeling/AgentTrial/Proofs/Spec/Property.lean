import AgentTrial.Spec.Property
import Mathlib.Tactic.SplitIfs

/-!
# Property — declarations, read and written again

A declaration is read as a property type, and that is written as a declaration again.  A property type that can be
declared survives the way back, but a declaration need not: one of a type without a meaning comes back as a name, and
without its properties.

* `PropertyType.ofDeclaration_toDeclaration`: a property type that can be declared is read as it was written.
* `Declaration.restate_at_unsupported`: what comes back of a declaration of an unsupported type, wherever it occurs.
-/

namespace AgentTrial

namespace PropertyType

/-- The type names with a meaning of their own. -/
def knownNames : List String := ["string", "number", "boolean", "object"]

mutual

/-- No type of unknown name has one of the known names. -/
def Declarable : PropertyType → Prop
  | object fields => DeclarableFields fields
  | unknown name => name ∉ knownNames
  | _ => True

/-- The same of every field. -/
def DeclarableFields : List (String × PropertyType) → Prop
  | [] => True
  | (_, p) :: fields => p.Declarable ∧ DeclarableFields fields

end

theorem declarableFields_iff {fields : List (String × PropertyType)} :
    DeclarableFields fields ↔ ∀ f ∈ fields, f.2.Declarable := by
  induction fields with
  | nil => simp [DeclarableFields]
  | cons f fields ih => simp [DeclarableFields, ih]

mutual

/-- What is read from a declaration can be declared. -/
theorem declarable_ofDeclaration : ∀ d : Declaration, (ofDeclaration d).Declarable
  | .mk kind properties => by
    rw [ofDeclaration.eq_def]
    dsimp only
    split_ifs with hstring hnumber hboolean hobject
    · trivial
    · trivial
    · trivial
    · exact declarable_ofOptional properties
    · split
      next name _ _ => simp_all [Declarable, knownNames]
      next fields => exact declarable_ofFields fields
      next => simp [Declarable, knownNames]

theorem declarable_ofOptional : ∀ fields : Option (List (String × Declaration)), DeclarableFields (ofOptional fields)
  | none => trivial
  | some fields => declarable_ofFields fields

theorem declarable_ofFields : ∀ fields : List (String × Declaration), DeclarableFields (ofFields fields)
  | [] => trivial
  | (_, d) :: fields => ⟨declarable_ofDeclaration d, declarable_ofFields fields⟩

end

/-- The declaration of a type without a meaning is read as its name. -/
theorem ofDeclaration_of_unsupported {name : String} (h : name ∉ knownNames)
    (properties : Option (List (String × Declaration))) : ofDeclaration (.mk (some name) properties) = unknown name := by
  simp only [knownNames, List.mem_cons, List.not_mem_nil, or_false, not_or] at h
  simp [ofDeclaration, h]

mutual

/-- A property type that can be declared is read as it was written. -/
theorem ofDeclaration_toDeclaration : ∀ {p : PropertyType}, p.Declarable → ofDeclaration p.toDeclaration = p
  | string, _ => rfl
  | number, _ => rfl
  | boolean, _ => rfl
  | object fields, h => by
    have hfields : ofFields (toFields fields) = fields := ofFields_toFields h
    simp [toDeclaration, ofDeclaration, ofOptional, hfields]
  | unknown name, h => by
    rw [toDeclaration]
    split_ifs with hempty
    · simp [ofDeclaration, String.isEmpty_iff.1 hempty]
    · exact ofDeclaration_of_unsupported h none

theorem ofFields_toFields : ∀ {fields : List (String × PropertyType)}, DeclarableFields fields →
    ofFields (toFields fields) = fields
  | [], _ => rfl
  | (name, p) :: fields, h => by
    rw [toFields, ofFields, ofDeclaration_toDeclaration h.1, ofFields_toFields h.2]

end

end PropertyType

namespace Declaration

open PropertyType

/-- What is written of a declaration after it was read. -/
def restate (d : Declaration) : Declaration := (ofDeclaration d).toDeclaration

/-- The declaration that a path of names leads to, through the properties of objects. -/
def at? : List String → Declaration → Option Declaration
  | [], d => some d
  | name :: path, mk kind properties =>
    if kind = some "object" ∨ kind = none then (properties.bind (Table.get? name)).bind (at? path) else none

theorem get?_restated (name : String) (fields : List (String × Declaration)) :
    Table.get? name (toFields (ofFields fields)) = (Table.get? name fields).map restate := by
  induction fields with
  | nil => rfl
  | cons f fields ih =>
    obtain ⟨k, d⟩ := f
    rw [ofFields, toFields, Table.get?, Table.get?, ih]
    split_ifs <;> rfl

/-- An object, and what has properties and no type, is written as an object with its properties. -/
theorem restate_of_object {kind : Option String} {fields : List (String × Declaration)}
    (h : kind = some "object" ∨ kind = none) :
    restate (mk kind (some fields)) = mk (some "object") (some (toFields (ofFields fields))) := by
  rcases h with rfl | rfl <;> simp [restate, ofDeclaration, ofOptional, toDeclaration]

/-- Below objects, a declaration is written again on its own. -/
theorem at?_restate {path : List String} {d e : Declaration} (h : at? path d = some e) :
    at? path d.restate = some e.restate := by
  induction path generalizing d with
  | nil =>
    obtain rfl : d = e := by simpa [at?] using h
    rfl
  | cons name path ih =>
    obtain ⟨kind, properties⟩ := d
    rw [at?] at h
    split_ifs at h with hkind
    obtain ⟨next, hnext, hpath⟩ := Option.bind_eq_some_iff.1 h
    obtain ⟨fields, rfl, hname⟩ := Option.bind_eq_some_iff.1 hnext
    rw [restate_of_object hkind, at?, if_pos (.inl rfl), Option.bind_some, get?_restated, hname]
    exact ih hpath

theorem restate_of_unsupported {name : String} (h : name ∉ knownNames)
    (properties : Option (List (String × Declaration))) :
    restate (mk (some name) properties) = mk (if name.isEmpty then none else some name) none := by
  rw [restate, ofDeclaration_of_unsupported h, toDeclaration]

/-- A declaration of an unsupported type, at the top or anywhere below objects, comes back as its name alone.  It is
the same as before exactly when it has a name that is not empty, and no properties. -/
theorem restate_at_unsupported {d : Declaration} {path : List String} {name : String}
    {properties : Option (List (String × Declaration))} (here : at? path d = some (mk (some name) properties))
    (unsupported : name ∉ knownNames) :
    at? path d.restate = some (mk (if name.isEmpty then none else some name) none) ∧
      (at? path d.restate = at? path d ↔ name ≠ "" ∧ properties = none) := by
  have restated := at?_restate here
  rw [restate_of_unsupported unsupported] at restated
  refine ⟨restated, ?_⟩
  rw [restated, here]
  constructor
  · intro h
    obtain ⟨hname, hproperties⟩ := mk.inj (Option.some.inj h)
    refine ⟨?_, hproperties.symm⟩
    rintro rfl
    cases hname
  · rintro ⟨hname, rfl⟩
    rw [if_neg (by simpa using hname)]

/-- An object with a property of an unsupported type that has properties of its own. -/
def placed : Declaration :=
  mk (some "object") (some [("label", mk (some "string") none),
    ("position", mk (some "vector3") (some [("x", mk (some "number") none)]))])

theorem restate_at_position :
    at? ["position"] placed = some (mk (some "vector3") (some [("x", mk (some "number") none)])) ∧
    "vector3" ∉ knownNames ∧ at? ["position"] placed.restate = some (mk (some "vector3") none) := by
  have here : at? ["position"] placed = some (mk (some "vector3") (some [("x", mk (some "number") none)])) := by
    simp [placed, at?, Table.get?]
  have unsupported : "vector3" ∉ knownNames := by decide
  exact ⟨here, unsupported, (restate_at_unsupported here unsupported).1⟩

/-- The properties of a declaration of an unsupported type are lost, and so is the declaration of an empty name. -/
theorem restate_loses :
    restate (mk (some "vector3") (some [("x", mk (some "number") none)])) ≠
      mk (some "vector3") (some [("x", mk (some "number") none)]) ∧
    restate (mk (some "") none) ≠ mk (some "") none := by
  have hvector : "vector3" ∉ knownNames := by decide
  have hempty : "" ∉ knownNames := by decide
  exact ⟨by simp [restate_of_unsupported hvector], by simp [restate_of_unsupported hempty]⟩

end Declaration

end AgentTrial
