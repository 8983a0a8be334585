import ApiTypes.Value.Basic

/-!
# The category of a schema

Every value in the place of a schema belongs to exactly one category
(`ApiTypes.Schema.classify`). The categories are tried in a fixed order: a schema with a
pointer is a reference whatever else it says, and an enumeration wins over its declared
type. Every mapping that is none of these is an object, and what is no mapping is
unknown.
-/

namespace ApiTypes.Schema

/-- The category of a schema. -/
inductive Category where
  /-- A pointer to another schema. -/
  | ref
  /-- A list of allowed values. -/
  | enum
  /-- A truth value. -/
  | boolean
  /-- A string. -/
  | string
  /-- A number. -/
  | number
  /-- Any combination of some schemas. -/
  | anyOf
  /-- One of some schemas. -/
  | oneOf
  /-- An array. -/
  | array
  /-- An object. -/
  | object
  /-- No schema at all. -/
  | unknown
deriving DecidableEq, Repr

/-- The name of a category. -/
def Category.name : Category → String
  | .ref => "ref"
  | .enum => "enum"
  | .boolean => "boolean"
  | .string => "string"
  | .number => "number"
  | .anyOf => "anyOf"
  | .oneOf => "oneOf"
  | .array => "array"
  | .object => "object"
  | .unknown => "unknown"

/-- The declared types of strings. -/
def stringTypes : List String := ["binary", "byte", "date", "dateTime", "password", "string"]

/-- The declared types of numbers. -/
def numberTypes : List String := ["double", "float", "integer", "number"]

/-- The primitive category of a declared type. -/
def primitive? (type : String) : Option Category :=
  if type = "boolean" then some .boolean
  else if type ∈ stringTypes then some .string
  else if type ∈ numberTypes then some .number
  else none

/-- Whether a keyword is there: an empty mapping counts, null and false do not. -/
def isPresent : Option Value → Bool
  | none | some .null | some (.bool false) => false
  | some _ => true

/-- Whether the value of a keyword counts as true. -/
def isTruthy : Option Value → Bool
  | none => false
  | some v => v.truthy

/-- The items of a keyword whose value is a list. -/
def listField? (es : Entries) (name : String) : Option (List Value) :=
  (Entries.field? es name).bind Value.items?

/-- The declared type, where it is a string. -/
def type? (es : Entries) : Option String := (Entries.field? es "type").bind Value.str?

/-- **The category of a schema.** -/
def classify : Value → Category
  | .map es =>
    if isTruthy (Entries.field? es "$ref") then .ref
    else if (listField? es "enum").isSome then .enum
    else match (type? es).bind primitive? with
      | some c => c
      | none =>
        if (listField? es "anyOf").isSome then .anyOf
        else if (listField? es "oneOf").isSome then .oneOf
        else if type? es = some "array" ∨ isPresent (Entries.field? es "items") then .array
        else .object
  | _ => .unknown

end ApiTypes.Schema
