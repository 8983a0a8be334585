import ApiTypes.Proofs.Schema.Rendered

/-!
# Types with edited members

Some things about the type of a schema are said at its properties alone: whether a property
is marked as optional, or whether it may be null. `ApiTypes.Schema.editedTypeOf` is the type of
a schema in which each property signature has been edited by a function, which is given the
schema of the property and the signature as it is, the types inside of it edited already. All
that is no property signature is made as it always is.

Editing with the function that changes nothing gives the type of the schema
(`ApiTypes.Schema.editedTypeOf_eq_typeOf`), so what another function changes is the
difference between two types.
-/

namespace ApiTypes.Schema

open TypeScript

section Level

variable (d : Dialect) (edit : Value → Member TypeExpr → Member TypeExpr) (f : Value → TypeExpr)

/-- The members of some properties, each of them edited. -/
def editedMembers (properties : Entries) (required : List Text) : List (Member TypeExpr) :=
  properties.map fun e => edit e.2 (memberOf d f required e.1 e.2)

/-- The type of a node with its members edited, given the types of the schemas in it. -/
def Node.editedWith (node : Node) : TypeExpr :=
  match node.shape with
  | .object properties required allOf additional =>
    objectOf (editedMembers d edit f properties required) (allOf.map f) (indexType d f additional)
  | _ => node.typeWith d f

end Level

/-- The type of a schema with its members edited, down to a given number of levels. -/
def editedTypeAt (d : Dialect) (edit : Value → Member TypeExpr → Member TypeExpr) :
    Nat → Value → TypeExpr
  | 0, _ => .any
  | n + 1, schema => (Node.ofValue schema).editedWith d edit (editedTypeAt d edit n)

/-- **The type of a schema with its members edited.** -/
def editedTypeOf (d : Dialect) (edit : Value → Member TypeExpr → Member TypeExpr)
    (schema : Value) : TypeExpr :=
  editedTypeAt d edit schema.depth schema

variable {d : Dialect} {edit : Value → Member TypeExpr → Member TypeExpr} {f g : Value → TypeExpr}

/-! ### The edited type of a schema is that of its node -/

theorem indexType_congr {additional : Value}
    (h : hasAdditional additional → f additional = g additional) :
    indexType d f additional = indexType d g additional := by
  unfold indexType
  split
  · next ha => rw [additionalType_congr (h ha)]
  · rfl

theorem editedMembers_congr {properties : Entries} {required : List Text}
    (h : ∀ e ∈ properties, f e.2 = g e.2) :
    editedMembers d edit f properties required = editedMembers d edit g properties required := by
  refine List.map_congr_left fun e he => ?_
  rw [memberOf, memberOf, h e he]

/-- The edited type of a node depends only on the types of the schemas inside of it. -/
theorem Node.editedWith_congr {node : Node} (h : ∀ v ∈ node.children, f v = g v) :
    node.editedWith d edit f = node.editedWith d edit g := by
  unfold Node.editedWith
  split
  · next properties required allOf additional hs =>
    simp only [Node.children, hs, List.mem_append, List.mem_map] at h
    have hbases : allOf.map f = allOf.map g :=
      List.map_congr_left fun v hv => h v (.inl (.inr hv))
    rw [editedMembers_congr fun e he => h e.2 (.inl (.inl ⟨e, he, rfl⟩)), hbases,
      indexType_congr fun ha => h additional (.inr (by simp [ha]))]
  · exact Node.typeWith_congr h

theorem editedTypeAt_eq_of_depth_le {m n : Nat} {schema : Value} (hm : schema.depth ≤ m)
    (hn : schema.depth ≤ n) : editedTypeAt d edit m schema = editedTypeAt d edit n schema := by
  induction m generalizing n schema with
  | zero => have := schema.depth_pos; omega
  | succ m ih =>
    cases n with
    | zero => have := schema.depth_pos; omega
    | succ n =>
      refine Node.editedWith_congr fun v hv => ?_
      have := depth_of_mem_children hv
      exact ih (by omega) (by omega)

/-- **The edited type of a schema is the edited type of its node.** -/
theorem editedTypeOf_eq (d : Dialect) (edit : Value → Member TypeExpr → Member TypeExpr)
    (schema : Value) :
    editedTypeOf d edit schema =
      (Node.ofValue schema).editedWith d edit (editedTypeOf d edit) := by
  obtain ⟨n, hn⟩ := Nat.exists_eq_succ_of_ne_zero (Nat.ne_of_gt schema.depth_pos)
  rw [editedTypeOf, hn]
  refine Node.editedWith_congr fun v hv => ?_
  have := depth_of_mem_children hv
  exact editedTypeAt_eq_of_depth_le (by omega) (Nat.le_refl _)

/-! ### Editing nothing -/

/-- The type of a node depends only on the types of those schemas inside of it that are
rendered. -/
theorem Node.typeWith_congr_of_rendered {node : Node} (h : ∀ v ∈ node.rendered d, f v = g v) :
    node.typeWith d f = node.typeWith d g := by
  unfold Node.rendered at h
  split at h
  · next variants hs =>
    -- Swagger 2 makes no type of a combination
    simp only [Node.typeWith, hs, unionType]
  · exact Node.typeWith_congr h

/-- A node none of whose members is changed has the type that it has. -/
theorem Node.editedWith_eq_typeWith {node : Node}
    (h : ∀ properties required allOf additional,
      node.shape = .object properties required allOf additional →
        ∀ e ∈ properties, ∀ m, edit e.2 m = m) :
    node.editedWith d edit f = node.typeWith d f := by
  unfold Node.editedWith
  split
  · next properties required allOf additional hs =>
    have hmembers : editedMembers d edit f properties required =
        membersOf d f properties required :=
      List.map_congr_left fun e he => h _ _ _ _ hs e he _
    rw [hmembers, Node.typeWith_of_object hs]
  · rfl

/-- **Editing that changes no rendered property** leaves the type as it is. -/
theorem editedTypeOf_eq_typeOf {schema : Value}
    (h : ∀ v, Rendered d schema v → ∀ properties required allOf additional,
      (Node.ofValue v).shape = .object properties required allOf additional →
        ∀ e ∈ properties, ∀ m, edit e.2 m = m) :
    editedTypeOf d edit schema = typeOf d schema := by
  induction schema using rendered_induction d with
  | step schema ih =>
    obtain ⟨hself, hinside⟩ := forall_rendered_iff.1 h
    rw [editedTypeOf_eq, Node.editedWith_eq_typeWith hself, typeOf_eq]
    exact Node.typeWith_congr_of_rendered fun v hv => ih v hv (hinside v hv)

end ApiTypes.Schema
