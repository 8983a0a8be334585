import ApiTypes.Dialect
import ApiTypes.Pointer
import ApiTypes.Schema.Node
import ApiTypes.TypeScript.DocComment

/-!
# The type of a schema

`ApiTypes.Schema.typeOf` turns a schema into a type expression. What one node
contributes is `ApiTypes.Schema.Node.typeWith`, which is given the types of the schemas
that the node contains; the type of a schema is the fixed point of that
(`ApiTypes.Schema.typeOf_eq`).

The dialects differ in three places. Swagger 2 has no type for a combination by `oneOf`
or `anyOf`. In OpenAPI 3 the first is a union and the second an intersection of partial
types, since any of its variants may hold at once; a property that may be null is marked
so; and further properties may be allowed by the truth value true.
-/

namespace ApiTypes.Schema

open TypeScript

/-- The primitive type of a category; a category without one is not restricted. -/
def primitiveType : Category → TypeExpr
  | .boolean => .name ['b', 'o', 'o', 'l', 'e', 'a', 'n'] []
  | .string => .name ['s', 't', 'r', 'i', 'n', 'g'] []
  | .number => .name ['n', 'u', 'm', 'b', 'e', 'r'] []
  | _ => .any

section Level

variable (d : Dialect) (f : Value → TypeExpr)

/-- The type of a combination of schemas. -/
def unionType (category : Category) (variants : List Value) : TypeExpr :=
  match d with
  | .swagger2 => .nothing
  | .openapi3 =>
    if category = .oneOf then .unionOf (variants.map f)
    else .intersectionOf (variants.map fun v => .partially (f v))

/-- The type of the further properties of an object. -/
def additionalType (additional : Value) : TypeExpr :=
  match d, additional with
  | .openapi3, .bool true => .any
  | _, v =>
    let t := f v
    if t.isVoid then .any else t

/-- The type of a property: in OpenAPI 3 it says whether the property may be null. -/
def propertyType (node : Node) (type : TypeExpr) : TypeExpr :=
  if d = .openapi3 ∧ node.nullable then .nullable type else type

/-- The comment of a node: none without a description. -/
def commentOf (node : Node) : Text :=
  match node.description with
  | none => []
  | some s => if s = "" then [] else docComment s.toList

/-- The member of a property. -/
def memberOf (required : List Text) (key schema : Value) : Member TypeExpr where
  comment := commentOf (Node.ofValue schema)
  name := key.text
  optional := key.text ∉ required
  type := propertyType d (Node.ofValue schema) (f schema)

/-- The members of some properties. -/
def membersOf (properties : Entries) (required : List Text) : List (Member TypeExpr) :=
  properties.map fun e => memberOf d f required e.1 e.2

/-- The type of an object: the block of its own properties together with the schemas that
it extends. -/
def objectType (properties : Entries) (required : List Text) (allOf : List Value)
    (additional : Value) : TypeExpr :=
  if isOpen properties allOf additional then .openObject
  else
    let index := if hasAdditional additional then some (additionalType d f additional) else none
    let own :=
      if properties.isEmpty && index.isNone then []
      else [TypeExpr.block (membersOf d f properties required) index]
    .intersectionOf (allOf.map f ++ own)

/-- **The type of a node**, given the types of the schemas in it. -/
def Node.typeWith (node : Node) : TypeExpr :=
  match node.shape with
  | .bare => .nothing
  | .ref path => Pointer.type path
  | .enum values => .unionOf (values.map fun v => .literal v.literalText)
  | .primitive _ => primitiveType node.category
  | .union variants => unionType d f node.category variants
  | .array items => .array (f items)
  | .object properties required allOf additional =>
    objectType d f properties required allOf additional
  | .unknown _ => .any

end Level

/-- The type of a schema, down to a given number of levels. -/
def typeAt (d : Dialect) : Nat → Value → TypeExpr
  | 0, _ => .any
  | n + 1, schema => (Node.ofValue schema).typeWith d (typeAt d n)

/-- **The type of a schema.** -/
def typeOf (d : Dialect) (schema : Value) : TypeExpr := typeAt d schema.depth schema

/-! ### The type of a schema is that of its node -/

section Congruence

variable {d : Dialect} {f g : Value → TypeExpr}

theorem additionalType_congr {additional : Value} (h : f additional = g additional) :
    additionalType d f additional = additionalType d g additional := by
  unfold additionalType
  split <;> simp [h]

theorem membersOf_congr {properties : Entries} {required : List Text}
    (h : ∀ e ∈ properties, f e.2 = g e.2) :
    membersOf d f properties required = membersOf d g properties required := by
  refine List.map_congr_left fun e he => ?_
  simp [memberOf, h e he]

/-- The type of a node depends only on the types of the schemas inside of it. -/
theorem Node.typeWith_congr {node : Node} (h : ∀ v ∈ node.children, f v = g v) :
    node.typeWith d f = node.typeWith d g := by
  obtain ⟨category, description, nullable, shape⟩ := node
  cases shape with
  | union variants =>
    simp only [Node.typeWith, unionType]
    have h' : ∀ v ∈ variants, f v = g v := h
    cases d with
    | swagger2 => rfl
    | openapi3 =>
      have hu : variants.map f = variants.map g := List.map_congr_left h'
      have hi : variants.map (fun v => (f v).partially) = variants.map fun v => (g v).partially :=
        List.map_congr_left fun v hv => by rw [h' v hv]
      simp only [hu, hi]
  | array items => simp [Node.typeWith, h items (by simp [Node.children])]
  | object properties required allOf additional =>
    have hp : ∀ e ∈ properties, f e.2 = g e.2 := fun e he => h e.2 (by
      simp only [Node.children, List.mem_append, List.mem_map]
      exact .inl (.inl ⟨e, he, rfl⟩))
    have ha : ∀ v ∈ allOf, f v = g v := fun v hv => h v (by
      simp only [Node.children, List.mem_append]
      exact .inl (.inr hv))
    simp only [Node.typeWith, objectType, membersOf_congr hp, List.map_congr_left ha]
    by_cases hx : hasAdditional additional
    · rw [additionalType_congr (h additional (by simp [Node.children, hx]))]
    · simp [hx]
  | _ => rfl

end Congruence

theorem typeAt_eq_of_depth_le {d : Dialect} {m n : Nat} {schema : Value}
    (hm : schema.depth ≤ m) (hn : schema.depth ≤ n) :
    typeAt d m schema = typeAt d n schema := by
  induction m generalizing n schema with
  | zero => have := schema.depth_pos; omega
  | succ m ih =>
    cases n with
    | zero => have := schema.depth_pos; omega
    | succ n =>
      refine Node.typeWith_congr fun v hv => ?_
      have := depth_of_mem_children hv
      exact ih (by omega) (by omega)

/-- **The type of a schema is the type of its node**, given the types of the schemas
inside of it. -/
theorem typeOf_eq (d : Dialect) (schema : Value) :
    typeOf d schema = (Node.ofValue schema).typeWith d (typeOf d) := by
  obtain ⟨n, hn⟩ := Nat.exists_eq_succ_of_ne_zero (Nat.ne_of_gt schema.depth_pos)
  rw [typeOf, hn]
  refine Node.typeWith_congr fun v hv => ?_
  have := depth_of_mem_children hv
  exact typeAt_eq_of_depth_le (by omega) (Nat.le_refl _)

/-! ### Texts -/

/-- The text of the type of a schema. -/
def typeText (d : Dialect) (schema : Value) : Text := (typeOf d schema).text

/-- The text of a block of properties. -/
def membersText (d : Dialect) (properties : Entries) (required : List Text) : Text :=
  TypeExpr.membersText (membersOf d (typeOf d) properties required)

end ApiTypes.Schema
