import ApiTypes.Schema.Category
import ApiTypes.Value.Display

/-!
# One level of a schema

A node is what one schema says by itself: its category, its description, whether it may
be null, and its shape (`ApiTypes.Schema.Shape`), in which the schemas it contains are
still values. `ApiTypes.Schema.Node.ofValue` reads the node of a schema; keywords that
are missing or have a value of the wrong kind count as empty.
-/

namespace ApiTypes.Schema

/-- **The shape of a schema.** -/
inductive Shape where
  /-- No shape. -/
  | bare
  /-- A pointer to another schema. -/
  | ref (path : Text)
  /-- A list of allowed values. -/
  | enum (values : List Value)
  /-- A primitive type, by its declared name. -/
  | primitive (typeName : String)
  /-- A combination of schemas. -/
  | union (variants : List Value)
  /-- An array, by the schema of its items. -/
  | array (items : Value)
  /-- An object, by its properties, the names of the required ones, the schemas it
  extends and the schema of its further properties. -/
  | object (properties : Entries) (required : List Text) (allOf : List Value)
      (additional : Value)
  /-- What is no schema. -/
  | unknown (raw : Value)

/-- **One level of a schema.** -/
structure Node where
  /-- The category. -/
  category : Category
  /-- The description, unless it is missing or empty. -/
  description : Option String
  /-- Whether null is allowed. -/
  nullable : Bool
  /-- The shape. -/
  shape : Shape

/-- The text of an entry of a list of required names. Strings, numbers and truth values
are names, and everything else is left out. -/
def requiredName? : Value → Option Text
  | v@(.str _) | v@(.int _) | v@(.float _) | v@(.nan _) | v@(.bool _) => some v.text
  | _ => none

/-- The required names of a list. -/
def requiredNames (items : List Value) : List Text := items.filterMap requiredName?

/-- The entries of a keyword whose value is a mapping; none if it is not. -/
def mapField (es : Entries) (name : String) : Entries :=
  ((Entries.field? es name).bind Value.entries?).getD []

/-- The items of a keyword whose value is a list; none if it is not. -/
def listField (es : Entries) (name : String) : List Value := (listField? es name).getD []

/-- The value of a keyword, null when it is missing. -/
def valueField (es : Entries) (name : String) : Value := (Entries.field? es name).getD .null

/-- The description of a schema, unless it is missing, empty or no string. -/
def description? (es : Entries) : Option String :=
  (Entries.field? es "description").bind fun v => v.str?.filter (· ≠ "")

/-- Whether a schema allows null: only the truth value itself says so. -/
def isNullable (es : Entries) : Bool :=
  match Entries.field? es "nullable" with
  | some (.bool b) => b
  | _ => false

/-- The shape of a mapping of category `c`. -/
def Shape.ofEntries (es : Entries) : Category → Shape
  | .ref => .ref (valueField es "$ref").text
  | .enum => .enum (listField es "enum")
  | .boolean | .string | .number => .primitive ((type? es).getD "")
  | .anyOf => .union (listField es "anyOf")
  | .oneOf => .union (listField es "oneOf")
  | .array => .array (valueField es "items")
  | .object =>
    .object (mapField es "properties") (requiredNames (listField es "required"))
      (listField es "allOf") (valueField es "additionalProperties")
  | .unknown => .unknown (.map es)

/-- **The node of a schema.** -/
def Node.ofValue (schema : Value) : Node :=
  let category := classify schema
  match schema with
  | .map es => ⟨category, description? es, isNullable es, Shape.ofEntries es category⟩
  | v => ⟨category, none, false, .unknown v⟩

/-- Whether an object has further properties: null and false say that it has none. -/
def hasAdditional : Value → Bool
  | .null | .bool false => false
  | _ => true

/-- Whether an object declares no shape at all. -/
def isOpen (properties : Entries) (allOf : List Value) (additional : Value) : Bool :=
  properties.isEmpty && allOf.isEmpty && !hasAdditional additional

/-! ### The schemas inside of a node -/

/-- The schemas that a node contains. -/
def Node.children (node : Node) : List Value :=
  match node.shape with
  | .union variants => variants
  | .array items => [items]
  | .object properties _ allOf additional =>
    properties.map (·.2) ++ allOf ++ if hasAdditional additional then [additional] else []
  | _ => []

theorem depth_of_mem_listField {es : Entries} {name : String} {v : Value}
    (h : v ∈ listField es name) : v.depth < (Value.map es).depth := by
  unfold listField listField? at h
  cases hf : Entries.field? es name with
  | none => simp [hf] at h
  | some w =>
    cases w with
    | list items =>
      have hw := Entries.depth_of_get? hf
      have hm : v ∈ items := by simpa [hf, Value.items?] using h
      have hv := Value.depth_of_mem_list hm
      omega
    | _ => simp [hf, Value.items?] at h

theorem depth_of_mem_mapField {es : Entries} {name : String} {e : Value × Value}
    (h : e ∈ mapField es name) : e.2.depth < (Value.map es).depth := by
  unfold mapField at h
  cases hf : Entries.field? es name with
  | none => simp [hf] at h
  | some w =>
    cases w with
    | map entries =>
      have hw := Entries.depth_of_get? hf
      have hm : (e.1, e.2) ∈ entries := by simpa [hf, Value.entries?] using h
      have hv := Value.depth_of_mem_map hm
      omega
    | _ => simp [hf, Value.entries?] at h

theorem depth_valueField {es : Entries} {name : String} (h : es ≠ []) :
    (valueField es name).depth < (Value.map es).depth := by
  unfold valueField
  cases hf : Entries.field? es name with
  | some v => simpa using Entries.depth_of_get? hf
  | none =>
    obtain ⟨⟨k, v⟩, rest, rfl⟩ := List.exists_cons_of_ne_nil h
    have := v.depth_pos
    simp only [Option.getD_none, Value.depth, Value.depthEntries]
    omega

theorem classify_ne_array_of_nil : classify (.map []) ≠ .array := by decide

/-- The schemas inside of a schema are less deep than it. -/
theorem depth_of_mem_children {schema v : Value} (h : v ∈ (Node.ofValue schema).children) :
    v.depth < schema.depth := by
  cases schema with
  | map es =>
    simp only [Node.ofValue, Node.children] at h
    cases hc : classify (.map es) with
    | array =>
      have hne : es ≠ [] := by
        rintro rfl
        exact classify_ne_array_of_nil hc
      simp only [hc, Shape.ofEntries, List.mem_singleton] at h
      exact h ▸ depth_valueField hne
    | object =>
      simp only [hc, Shape.ofEntries, List.mem_append, List.mem_map] at h
      rcases h with (⟨e, he, rfl⟩ | h) | h
      · exact depth_of_mem_mapField he
      · exact depth_of_mem_listField h
      · by_cases ha : hasAdditional (valueField es "additionalProperties")
        · rw [if_pos ha, List.mem_singleton] at h
          have hne : es ≠ [] := by
            rintro rfl
            exact absurd ha (by decide)
          exact h ▸ depth_valueField hne
        · simp [ha] at h
    | anyOf =>
      simp only [hc, Shape.ofEntries] at h
      exact depth_of_mem_listField h
    | oneOf =>
      simp only [hc, Shape.ofEntries] at h
      exact depth_of_mem_listField h
    | _ => simp [hc, Shape.ofEntries] at h
  | _ => simp [Node.ofValue, Node.children] at h

end ApiTypes.Schema
