import AgentTrial.Json.Decode

/-!
# Property — declared property types

A document declares a property by a type name and, for objects, the properties below it.  A `Declaration` is that
written form, a `PropertyType` its meaning: four known types, and `unknown` for every other name, which accepts any
value and keeps its name.  The properties of a declaration with an unknown name carry no meaning and are dropped.
-/

namespace AgentTrial

/-- The written form of a property: its type name and its properties. -/
inductive Declaration
  | mk (kind : Option String) (properties : Option (List (String × Declaration)))
  deriving Repr, Inhabited

/-- A declared property type.  The fields of an object are in the order of their declaration. -/
inductive PropertyType
  | string
  | number
  | boolean
  | object (fields : List (String × PropertyType))
  | unknown (name : String)
  deriving Repr, Inhabited

namespace PropertyType

/-- The fields of an object. -/
def fields? : PropertyType → Option (List (String × PropertyType))
  | object fields => some fields
  | _ => none

mutual

/-- The meaning of a declaration.  Properties without a type name declare an object. -/
def ofDeclaration : Declaration → PropertyType
  | .mk kind properties =>
    if kind = some "string" then string
    else if kind = some "number" then number
    else if kind = some "boolean" then boolean
    else if kind = some "object" then object (ofOptional properties)
    else
      match kind, properties with
      | some name, _ => unknown name
      | none, some fields => object (ofFields fields)
      | none, none => unknown ""

/-- The meanings of properties that may be absent. -/
def ofOptional : Option (List (String × Declaration)) → List (String × PropertyType)
  | none => []
  | some fields => ofFields fields

/-- The meanings of named declarations. -/
def ofFields : List (String × Declaration) → List (String × PropertyType)
  | [] => []
  | (name, d) :: fields => (name, ofDeclaration d) :: ofFields fields

end

mutual

/-- The declaration of a property type. -/
def toDeclaration : PropertyType → Declaration
  | string => .mk (some "string") none
  | number => .mk (some "number") none
  | boolean => .mk (some "boolean") none
  | object fields => .mk (some "object") (some (toFields fields))
  | unknown name => .mk (if name.isEmpty then none else some name) none

/-- The declarations of named property types. -/
def toFields : List (String × PropertyType) → List (String × Declaration)
  | [] => []
  | (name, p) :: fields => (name, toDeclaration p) :: toFields fields

end

mutual

/-- Equality of property types; the order of fields does not matter. -/
def same : PropertyType → PropertyType → Bool
  | string, string => true
  | number, number => true
  | boolean, boolean => true
  | object fields, object others => fields.length == others.length && sameFields fields others
  | unknown name, unknown other => name == other
  | _, _ => false

/-- Has every field a field of the same name and type among the others? -/
def sameFields : List (String × PropertyType) → List (String × PropertyType) → Bool
  | [], _ => true
  | (name, p) :: fields, others => sameAt name p others && sameFields fields others

/-- Is there a field of that name and type? -/
def sameAt : String → PropertyType → List (String × PropertyType) → Bool
  | _, _, [] => false
  | name, p, (other, q) :: others => if other = name then p.same q else sameAt name p others

end

end PropertyType

namespace Declaration

/-- Decodes a declaration of at most `levels` levels. -/
def decodeWithin : Nat → Datum → Except Cause Declaration
  | 0, d => .error d.refusal
  | levels + 1, d =>
    Fields.decode
      (mk <$> Fields.optional "type" Datum.asText <*>
        Fields.optional "properties" (Datum.asTable (decodeWithin levels))) d

/-- Decodes a declaration. -/
def decode (d : Datum) : Except Cause Declaration := decodeWithin d.height d

mutual

/-- The value tree of a declaration; what is absent is not written. -/
def toJson : Declaration → Json
  | mk kind properties => .record (Json.optional "type" (kind.map .text) ++ propertiesJson properties)

/-- The field of the properties. -/
def propertiesJson : Option (List (String × Declaration)) → List (String × Json)
  | none => []
  | some fields => [("properties", .record (fieldsJson fields))]

/-- The value trees of named declarations. -/
def fieldsJson : List (String × Declaration) → List (String × Json)
  | [] => []
  | (name, d) :: fields => (name, toJson d) :: fieldsJson fields

end

end Declaration

namespace PropertyType

/-- Decodes a property type. -/
def decode (d : Datum) : Except Cause PropertyType := ofDeclaration <$> Declaration.decode d

/-- The value tree of a property type. -/
def toJson (p : PropertyType) : Json := p.toDeclaration.toJson

end PropertyType

end AgentTrial
