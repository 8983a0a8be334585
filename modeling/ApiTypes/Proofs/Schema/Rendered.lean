import ApiTypes.Schema.Type

/-!
# The schemas that are rendered

Not all that a schema contains gets into its type: what stands below an enumeration does
not, and in Swagger 2 neither do the variants of a combination.
`ApiTypes.Schema.Rendered` says which schemas do, down to any depth. Conditions on what
is generated are conditions on the rendered schemas, and properties of types are shown
along them (`ApiTypes.Schema.rendered_induction`).

The type of an object is given here once more, by its parts
(`ApiTypes.Schema.objectOf`): the members of its own block, the types that it extends and
the type of its further properties. `ApiTypes.Schema.objectType_eq` says that this is the
same type.
-/

namespace ApiTypes.Schema

open TypeScript

/-- The schemas in a node whose types are parts of its type. -/
def Node.rendered (d : Dialect) (node : Node) : List Value :=
  match d, node.shape with
  | .swagger2, .union _ => []
  | _, _ => node.children

/-- **The rendered schemas of a schema**: it is one of them, and so are those of the
schemas rendered for its node. -/
inductive Rendered (d : Dialect) : Value → Value → Prop
  /-- The schema itself. -/
  | self (schema : Value) : Rendered d schema schema
  /-- A schema further inside. -/
  | inside {schema v w : Value} : v ∈ (Node.ofValue schema).rendered d → Rendered d v w →
      Rendered d schema w

theorem Node.mem_children_of_rendered {d : Dialect} {node : Node} {v : Value}
    (h : v ∈ node.rendered d) : v ∈ node.children := by
  unfold Node.rendered at h
  split at h
  · simp at h
  · exact h

/-- **Induction along the rendered schemas**: what holds of a schema whenever it holds of
those rendered for its node holds of every schema. -/
@[elab_as_elim]
theorem rendered_induction (d : Dialect) {motive : Value → Prop}
    (step : ∀ schema, (∀ v ∈ (Node.ofValue schema).rendered d, motive v) → motive schema)
    (schema : Value) : motive schema := by
  induction hn : schema.depth using Nat.strongRecOn generalizing schema with
  | ind n ih =>
    refine step schema fun v hv => ?_
    have hdepth := depth_of_mem_children (Node.mem_children_of_rendered hv)
    exact ih v.depth (hn ▸ hdepth) v rfl

/-- The type of what is no mapping is not restricted. -/
theorem typeOf_of_not_map {d : Dialect} {v : Value} (h : v.isMap = false) : typeOf d v = .any := by
  rw [typeOf_eq]
  cases v with
  | map es => simp [Value.isMap] at h
  | _ => rfl

/-- A condition on all rendered schemas is one on the schema itself and on all those
rendered for its node. -/
theorem forall_rendered_iff {d : Dialect} {P : Value → Prop} {schema : Value} :
    (∀ v, Rendered d schema v → P v) ↔
      P schema ∧ ∀ v ∈ (Node.ofValue schema).rendered d, ∀ w, Rendered d v w → P w := by
  constructor
  · exact fun h => ⟨h schema (.self schema), fun v hv w hw => h w (.inside hv hw)⟩
  · rintro ⟨hself, hinside⟩ v hv
    cases hv with
    | self => exact hself
    | inside hu hv => exact hinside _ hu v hv

/-- **An invariant along the rendered schemas**: what holds of a schema and gets from each
schema to those rendered for its node holds of all rendered schemas. -/
theorem Rendered.invariant {d : Dialect} {P : Value → Prop} {schema v : Value}
    (h : Rendered d schema v) (hself : P schema)
    (hstep : ∀ u, P u → ∀ w ∈ (Node.ofValue u).rendered d, P w) : P v := by
  induction h with
  | self schema => exact hself
  | inside hv _ ih => exact ih (hstep _ hself _ hv)

/-! ### Conditions on the rendered schemas -/

/-- The roots of all rendered pointers have a property. -/
def PointerRoots (d : Dialect) (root : Text → Prop) (schema : Value) : Prop :=
  ∀ v, Rendered d schema v → ∀ path, (Node.ofValue v).shape = .ref path → root (Pointer.root path)

/-- Some rendered schema lists the values or the variants that there are, and lists none. -/
def HasEmptyChoice (d : Dialect) (schema : Value) : Prop :=
  ∃ v, Rendered d schema v ∧
    ((Node.ofValue v).shape = .enum [] ∨ (Node.ofValue v).shape = .union [])

theorem PointerRoots.inside {d : Dialect} {root : Text → Prop} {schema v : Value}
    (h : PointerRoots d root schema) (hv : v ∈ (Node.ofValue schema).rendered d) :
    PointerRoots d root v :=
  fun w hw => h w (.inside hv hw)

theorem HasEmptyChoice.of_inside {d : Dialect} {schema v : Value}
    (h : HasEmptyChoice d v) (hv : v ∈ (Node.ofValue schema).rendered d) :
    HasEmptyChoice d schema := by
  obtain ⟨w, hw, hempty⟩ := h
  exact ⟨w, .inside hv hw, hempty⟩

theorem Node.ofValue_shape_ne_bare (schema : Value) : (Node.ofValue schema).shape ≠ .bare := by
  cases schema with
  | map es => cases hc : classify (.map es) <;> simp [Node.ofValue, Shape.ofEntries, hc]
  | _ => simp [Node.ofValue]

/-! ### The schemas in an object -/

section Object

variable {d : Dialect} {node : Node} {properties : Entries} {required : List Text}
  {allOf : List Value} {additional : Value}

theorem Node.rendered_property (hs : node.shape = .object properties required allOf additional)
    {e : Value × Value} (he : e ∈ properties) : e.2 ∈ node.rendered d := by
  unfold Node.rendered Node.children
  simp only [hs, List.mem_append, List.mem_map]
  exact .inl (.inl ⟨e, he, rfl⟩)

theorem Node.rendered_base (hs : node.shape = .object properties required allOf additional)
    {v : Value} (hv : v ∈ allOf) : v ∈ node.rendered d := by
  unfold Node.rendered Node.children
  simp only [hs, List.mem_append]
  exact .inl (.inr hv)

theorem Node.rendered_additional
    (hs : node.shape = .object properties required allOf additional)
    (ha : hasAdditional additional) : additional ∈ node.rendered d := by
  unfold Node.rendered Node.children
  simp only [hs, List.mem_append]
  exact .inr (by simp [ha])

end Object

/-! ### The type of a combination -/

/-- The type of a combination whose variants have been replaced by others of the same types. -/
theorem unionType_map {d : Dialect} {f f' : Value → TypeExpr} {F : Value → Value}
    {category : Category} {variants : List Value}
    (h : d = .openapi3 → ∀ v ∈ variants, f (F v) = f' v) :
    unionType d f category (variants.map F) = unionType d f' category variants := by
  cases d with
  | swagger2 => rfl
  | openapi3 =>
    have hunion : variants.map (fun v => f (F v)) = variants.map f' :=
      List.map_congr_left fun v hv => h rfl v hv
    have hpartial : variants.map (fun v => (f (F v)).partially) =
        variants.map fun v => (f' v).partially :=
      List.map_congr_left fun v hv => by rw [h rfl v hv]
    simp only [unionType, List.map_map]
    split
    · exact congrArg TypeExpr.unionOf hunion
    · exact congrArg TypeExpr.intersectionOf hpartial

/-! ### The type of an object by its parts -/

/-- The type of the further properties, if there are any. -/
def indexType (d : Dialect) (f : Value → TypeExpr) (additional : Value) : Option TypeExpr :=
  if hasAdditional additional then some (additionalType d f additional) else none

/-- The block of an object, if it has members of its own or further properties. -/
def ownBlock (members : List (Member TypeExpr)) (index : Option TypeExpr) : List TypeExpr :=
  if members.isEmpty && index.isNone then [] else [.block members index]

/-- **An object by its parts**: the members of its own block, the types that it extends,
and the type of its further properties. -/
def objectOf (members : List (Member TypeExpr)) (bases : List TypeExpr)
    (index : Option TypeExpr) : TypeExpr :=
  if members.isEmpty && bases.isEmpty && index.isNone then .openObject
  else .intersectionOf (bases ++ ownBlock members index)

/-- **The type of an object is put together from the types of its parts.** -/
theorem objectType_eq (d : Dialect) (f : Value → TypeExpr) (properties : Entries)
    (required : List Text) (allOf : List Value) (additional : Value) :
    objectType d f properties required allOf additional =
      objectOf (membersOf d f properties required) (allOf.map f) (indexType d f additional) := by
  have hindex : (indexType d f additional).isNone = !hasAdditional additional := by
    cases h : hasAdditional additional <;> simp [indexType, h]
  have hmembers : (membersOf d f properties required).isEmpty = properties.isEmpty := by
    simp [membersOf]
  have hbases : (allOf.map f).isEmpty = allOf.isEmpty := by simp
  rw [objectOf, ownBlock, hmembers, hbases, hindex, objectType, isOpen]
  cases h : hasAdditional additional <;> simp [indexType, h]

/-- The type of a node that is an object, by the parts of the object. -/
theorem Node.typeWith_of_object {d : Dialect} {f : Value → TypeExpr} {node : Node}
    {properties : Entries} {required : List Text} {allOf : List Value} {additional : Value}
    (hs : node.shape = .object properties required allOf additional) :
    node.typeWith d f =
      objectOf (membersOf d f properties required) (allOf.map f) (indexType d f additional) := by
  simp only [Node.typeWith, hs, objectType_eq]

end ApiTypes.Schema
