import AgentTrial.Spec.Property
import AgentTrial.Text.Literal

/-!
# Validator — property types as validator expressions

The expression that checks a value of a property type in a generated program.  A type of unknown name accepts any
value.
-/

namespace AgentTrial.PropertyType

mutual

/-- The validator expression of a property type. -/
def validatorChars : PropertyType → List Char
  | string => "z.string()".toList
  | number => "z.number()".toList
  | boolean => "z.boolean()".toList
  | unknown _ => "z.any()".toList
  | object [] => "z.object(\x7b\x7d)".toList
  | object (f :: fields) =>
    "z.object(\x7b ".toList ++ fieldChars f ++ moreFieldChars fields ++ " \x7d)".toList

/-- A field of an object expression. -/
def fieldChars : String × PropertyType → List Char
  | (name, p) => Text.literalChars name.toList ++ ':' :: ' ' :: validatorChars p

/-- The fields after the first. -/
def moreFieldChars : List (String × PropertyType) → List Char
  | [] => []
  | f :: fields => ',' :: ' ' :: fieldChars f ++ moreFieldChars fields

end

/-- The validator expression of a property type. -/
def validator (p : PropertyType) : String := .ofList p.validatorChars

/-- The validator expression of an object with these fields. -/
def objectValidator (fields : Table PropertyType) : String := validator (object fields)

end AgentTrial.PropertyType
