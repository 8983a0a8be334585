import ApiTypes.Proofs.Schema.Edited
import ApiTypes.Proofs.TypeScript.Unmarked
import ApiTypes.TypeScript.Module

/-!
# Types with other marks

Whether a property is marked as optional is one thing about the type of a schema; all the
rest of the type does not depend on it. `ApiTypes.Schema.markedTypeOf` is the type of a
schema with the marks changed: a function is given the schema of each property and whether
it is optional, and says whether it is to be marked. With the function that changes nothing
it is the type of the schema (`ApiTypes.Schema.markedTypeOf_eq_typeOf`), and with any function
it is that type up to marks (`ApiTypes.Schema.unmarked_markedTypeOf`).
-/

namespace ApiTypes.Schema

open TypeScript

section Level

variable (d : Dialect) (mark : Value → Bool → Bool) (f : Value → TypeExpr)

/-- The member of a property, with its mark changed. -/
def markedMember (required : List Text) (key schema : Value) : Member TypeExpr :=
  let m := memberOf d f required key schema
  { m with optional := mark schema m.optional }

/-- The members of some properties, with their marks changed. -/
def markedMembers (properties : Entries) (required : List Text) : List (Member TypeExpr) :=
  properties.map fun e => markedMember d mark f required e.1 e.2

/-- The type of a node with the marks of its properties changed, given the types of the
schemas in it. -/
def Node.markedWith (node : Node) : TypeExpr :=
  match node.shape with
  | .object properties required allOf additional =>
    objectOf (markedMembers d mark f properties required) (allOf.map f) (indexType d f additional)
  | _ => node.typeWith d f

end Level

/-- The type of a schema with other marks, down to a given number of levels. -/
def markedTypeAt (d : Dialect) (mark : Value → Bool → Bool) : Nat → Value → TypeExpr
  | 0, _ => .any
  | n + 1, schema => (Node.ofValue schema).markedWith d mark (markedTypeAt d mark n)

/-- **The type of a schema with other marks.** -/
def markedTypeOf (d : Dialect) (mark : Value → Bool → Bool) (schema : Value) : TypeExpr :=
  markedTypeAt d mark schema.depth schema

variable {d : Dialect} {mark : Value → Bool → Bool} {f g : Value → TypeExpr}

/-- A signature with its mark changed. -/
def withMark (mark : Value → Bool → Bool) (schema : Value) (m : Member TypeExpr) :
    Member TypeExpr :=
  { m with optional := mark schema m.optional }

/-- Changing marks is a way of editing members. -/
theorem markedTypeOf_eq_editedTypeOf (d : Dialect) (mark : Value → Bool → Bool) :
    markedTypeOf d mark = editedTypeOf d (withMark mark) := by
  have hat : ∀ n, markedTypeAt d mark n = editedTypeAt d (withMark mark) n := by
    intro n
    induction n with
    | zero => rfl
    | succ n ih =>
      funext schema
      rw [markedTypeAt, editedTypeAt, ih]
      rfl
  funext schema
  rw [markedTypeOf, editedTypeOf, hat]

/-- **The marked type of a schema is the marked type of its node.** -/
theorem markedTypeOf_eq (d : Dialect) (mark : Value → Bool → Bool) (schema : Value) :
    markedTypeOf d mark schema = (Node.ofValue schema).markedWith d mark (markedTypeOf d mark) := by
  rw [markedTypeOf_eq_editedTypeOf, editedTypeOf_eq]
  rfl

/-- **Marks that are not changed** leave the type as it is. -/
theorem markedTypeOf_eq_typeOf (h : ∀ v b, mark v b = b) (schema : Value) :
    markedTypeOf d mark schema = typeOf d schema := by
  rw [markedTypeOf_eq_editedTypeOf]
  refine editedTypeOf_eq_typeOf fun _ _ _ _ _ _ _ e _ m => ?_
  rw [withMark, h]

/-! ### All but the marks -/

section Unmarked

open TypeExpr

theorem unmarked_additionalType {additional : Value}
    (h : (f additional).unmarked = (g additional).unmarked) :
    (additionalType d f additional).unmarked = (additionalType d g additional).unmarked := by
  have hvoid : (f additional).isVoid = (g additional).isVoid := by
    rw [← isVoid_unmarked, h, isVoid_unmarked]
  unfold additionalType
  split
  · rfl
  · dsimp only
    rw [hvoid]
    split
    · rfl
    · exact h

theorem unmarked_markedMember {required : List Text} {key schema : Value}
    (h : (f schema).unmarked = (g schema).unmarked) :
    unmarkedMember (markedMember d mark f required key schema) =
      unmarkedMember (memberOf d g required key schema) := by
  have htype : (propertyType d (Node.ofValue schema) (f schema)).unmarked =
      (propertyType d (Node.ofValue schema) (g schema)).unmarked := by
    unfold propertyType
    split
    · exact congrArg TypeExpr.nullable h
    · exact h
  simp only [unmarkedMember, markedMember, memberOf, htype]

theorem unmarked_objectOf {ms ms' : List (Member TypeExpr)} {bases bases' : List TypeExpr}
    {index index' : Option TypeExpr} (hms : ms.map unmarkedMember = ms'.map unmarkedMember)
    (hbases : bases.map unmarked = bases'.map unmarked)
    (hindex : index.map unmarked = index'.map unmarked) :
    (objectOf ms bases index).unmarked = (objectOf ms' bases' index').unmarked := by
  have hms' : ms.isEmpty = ms'.isEmpty := by
    simpa using congrArg List.isEmpty hms
  have hbases' : bases.isEmpty = bases'.isEmpty := by
    simpa using congrArg List.isEmpty hbases
  have hindex' : index.isNone = index'.isNone := by
    simpa using congrArg Option.isNone hindex
  have hown : (ownBlock ms index).map unmarked = (ownBlock ms' index').map unmarked := by
    rw [ownBlock, ownBlock, hms', hindex']
    split
    · rfl
    · simp only [List.map_cons, List.map_nil, unmarked, unmarkedMembers_eq_map,
        unmarkedIndex_eq_map, hms, hindex]
  rw [objectOf, objectOf, hms', hbases', hindex']
  split
  · rfl
  · rw [unmarked_intersectionOf, unmarked_intersectionOf, List.map_append, List.map_append, hbases,
      hown]

/-- The marked type of a node is its type up to marks, when this holds of the schemas inside. -/
theorem Node.unmarked_markedWith (h : ∀ v, (f v).unmarked = (g v).unmarked) (node : Node) :
    (node.markedWith d mark f).unmarked = (node.typeWith d g).unmarked := by
  obtain ⟨category, description, nullable, shape⟩ := node
  cases shape with
  | union variants =>
    simp only [Node.markedWith, Node.typeWith, unionType]
    cases d with
    | swagger2 => rfl
    | openapi3 =>
      dsimp only
      split
      · simp only [unmarked_unionOf, List.map_map, Function.comp_def, h]
      · simp only [unmarked_intersectionOf, List.map_map, Function.comp_def, unmarked, h]
  | array items => exact congrArg TypeExpr.array (h items)
  | object properties required allOf additional =>
    simp only [Node.markedWith, Node.typeWith, objectType_eq]
    refine unmarked_objectOf ?_ ?_ ?_
    · simp only [markedMembers, membersOf, List.map_map, Function.comp_def,
        unmarked_markedMember (h _)]
    · simp only [List.map_map, Function.comp_def, h]
    · unfold indexType
      split
      · exact congrArg some (unmarked_additionalType (h additional))
      · rfl
  | _ => rfl

/-- **Changing marks changes nothing else**: without its marks, the marked type of a schema is
its type. -/
theorem unmarked_markedTypeOf (d : Dialect) (mark : Value → Bool → Bool) (schema : Value) :
    (markedTypeOf d mark schema).unmarked = (typeOf d schema).unmarked := by
  have hat : ∀ n v, (markedTypeAt d mark n v).unmarked = (typeAt d n v).unmarked := by
    intro n
    induction n with
    | zero => exact fun _ => rfl
    | succ n ih => exact fun v => Node.unmarked_markedWith ih (Node.ofValue v)
  exact hat schema.depth schema

end Unmarked

end ApiTypes.Schema

namespace ApiTypes.TypeScript

/-- **The text of a module with other marks**: those of the named schemas themselves stay,
since all of them are required. -/
def markedModuleText (d : Dialect) (mark : Value → Bool → Bool) (schemas : Entries) : Text :=
  moduleHead d ++
    TypeExpr.membersText (Schema.membersOf d (Schema.markedTypeOf d mark) schemas
      (schemas.map fun e => e.1.text)) ++
    moduleTail d

theorem markedModuleText_eq_moduleText {d : Dialect} {mark : Value → Bool → Bool}
    (h : ∀ v b, mark v b = b) (schemas : Entries) :
    markedModuleText d mark schemas = moduleText d schemas := by
  have htype : Schema.markedTypeOf d mark = Schema.typeOf d :=
    funext (Schema.markedTypeOf_eq_typeOf h)
  rw [markedModuleText, htype]
  rfl

end ApiTypes.TypeScript
