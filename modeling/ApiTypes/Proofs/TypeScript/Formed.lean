import ApiTypes.Proofs.Code.Assembly
import ApiTypes.Proofs.Schema.Rendered

/-!
# What the types of schemas look like

A type expression may be anything, but those of schemas are more regular
(`ApiTypes.TypeScript.TypeExpr.Formed`): a union or an intersection never has exactly one
member, every comment is the block of a description, and the roots of names come from
pointers or are keywords. Whether a union may be without members, and whether there may be
no type at all, depends on the schema, so this is a parameter.

`ApiTypes.Schema.formed_typeOf` says so for the type of any schema, and
`ApiTypes.TypeScript.TypeExpr.Formed.code` that such types are printed as code whose
comments, literals and braces are closed, when their roots are.
-/

namespace ApiTypes.TypeScript

/-- A comment in front of a member: none, or the block of a description. -/
def IsComment (t : Text) : Prop := t = [] ∨ ∃ description, t = docComment description

theorem IsComment.code {t : Text} (h : IsComment t) : Output.Code t := by
  rcases h with rfl | ⟨description, rfl⟩
  · exact .nil
  · exact .docComment description

/-- The names of types that do not come from pointers. -/
def keywords : List Text :=
  [Written.any, ['b', 'o', 'o', 'l', 'e', 'a', 'n'], ['s', 't', 'r', 'i', 'n', 'g'],
    ['n', 'u', 'm', 'b', 'e', 'r']]

namespace TypeExpr

/-- **The type expressions of schemas.** The roots of names satisfy `root`, and only if
`void` holds may there be no type, or a union or an intersection of nothing. -/
inductive Formed (root : Text → Prop) (void : Prop) : TypeExpr → Prop
  /-- No type. -/
  | nothing : void → Formed root void .nothing
  /-- A name. -/
  | name {r : Text} (keys : List Text) : root r → Formed root void (.name r keys)
  /-- A literal. -/
  | literal (value : Text) : Formed root void (.literal value)
  /-- A union. -/
  | union {ts : List TypeExpr} : ts.length ≠ 1 → (ts = [] → void) →
      (∀ t ∈ ts, Formed root void t) → Formed root void (.union ts)
  /-- An intersection. -/
  | intersection {ts : List TypeExpr} : ts.length ≠ 1 → (ts = [] → void) →
      (∀ t ∈ ts, Formed root void t) → Formed root void (.intersection ts)
  /-- An array. -/
  | array {t : TypeExpr} : Formed root void t → Formed root void (.array t)
  /-- A partial type. -/
  | partially {t : TypeExpr} : Formed root void t → Formed root void (.partially t)
  /-- A type or null. -/
  | nullable {t : TypeExpr} : Formed root void t → Formed root void (.nullable t)
  /-- The open object. -/
  | openObject : Formed root void .openObject
  /-- A block. -/
  | block {ms : List (Member TypeExpr)} {index : Option TypeExpr} :
      (∀ m ∈ ms, IsComment m.comment) → (∀ m ∈ ms, Formed root void m.type) →
      (∀ t ∈ index, Formed root void t) → Formed root void (.block ms index)

variable {root : Text → Prop} {void : Prop}

theorem formed_unionOf {ts : List TypeExpr} (hne : ts = [] → void)
    (h : ∀ t ∈ ts, Formed root void t) : Formed root void (unionOf ts) := by
  match ts with
  | [t] => exact h t (by simp)
  | [] => exact .union (by simp) hne h
  | _ :: _ :: _ => exact .union (by simp) hne h

theorem formed_intersectionOf {ts : List TypeExpr} (hne : ts = [] → void)
    (h : ∀ t ∈ ts, Formed root void t) : Formed root void (intersectionOf ts) := by
  match ts with
  | [t] => exact h t (by simp)
  | [] => exact .intersection (by simp) hne h
  | _ :: _ :: _ => exact .intersection (by simp) hne h

/-! ### Their texts -/

theorem code_membersText {ms : List (Member TypeExpr)} (hcomment : ∀ m ∈ ms, IsComment m.comment)
    (htype : ∀ m ∈ ms, Output.Code m.type.text) : Output.Code (membersText ms) := by
  induction ms with
  | nil => exact .nil
  | cons m ms ih =>
    have hproperty : Output.Code (Written.property m.name m.optional m.type.text) :=
      .property m.name m.optional (htype m (by simp))
    rw [membersText]
    exact ((hcomment m (by simp)).code.append hproperty).append
      (ih (fun n hn => hcomment n (by simp [hn])) fun n hn => htype n (by simp [hn]))

/-- What stands between the braces of a block. -/
theorem code_inside {ms : List (Member TypeExpr)} {index : Option TypeExpr}
    (hcomment : ∀ m ∈ ms, IsComment m.comment) (htype : ∀ m ∈ ms, Output.Code m.type.text)
    (hindex : ∀ t ∈ index, Output.Code t.text) :
    Output.Code (membersText ms ++ indexText index) := by
  have hend : Output.Code (indexText index) := by
    cases index with
    | none => exact .nil
    | some t => exact .index (hindex t rfl)
  exact (code_membersText hcomment htype).append hend

/-- **The text of a type expression closes what it opens**, when its roots do. -/
theorem Formed.code {t : TypeExpr} (h : Formed root void t)
    (hroot : ∀ r, root r → Output.Code r) : Output.Code t.text := by
  induction h with
  | nothing => exact .nil
  | name keys hr => exact .indexed (hroot _ hr) keys
  | literal value => exact .literal value (.inr rfl)
  | union _ _ _ ih =>
    rw [text, texts_eq_map]
    exact .wrapped (by decide) (by simpa using ih)
  | intersection _ _ _ ih =>
    rw [text, texts_eq_map]
    exact .wrapped (by decide) (by simpa using ih)
  | array _ ih => exact .array ih
  | partially _ ih => exact .partially ih
  | nullable _ ih => exact .nullable ih
  | openObject => exact .openObject
  | block hcomment _ _ ihms ihindex => exact .object (code_inside hcomment ihms ihindex)

end TypeExpr

end ApiTypes.TypeScript

namespace ApiTypes.Schema

open TypeScript TypeExpr

variable {root : Text → Prop} {void : Prop}

theorem isComment_commentOf (node : Node) : IsComment (commentOf node) := by
  unfold commentOf
  split
  · exact .inl rfl
  · next s _ =>
    split
    · exact .inl rfl
    · exact .inr ⟨s.toList, rfl⟩

theorem formed_primitiveType (hkw : ∀ w ∈ keywords, root w) (category : Category) :
    Formed root void (primitiveType category) := by
  cases category <;> exact .name [] (hkw _ (by decide))

theorem formed_propertyType {d : Dialect} {node : Node} {t : TypeExpr}
    (h : Formed root void t) : Formed root void (propertyType d node t) := by
  unfold propertyType
  split
  · exact .nullable h
  · exact h

theorem formed_additionalType {d : Dialect} {f : Value → TypeExpr} {additional : Value}
    (hkw : ∀ w ∈ keywords, root w) (h : Formed root void (f additional)) :
    Formed root void (additionalType d f additional) := by
  have hany : Formed root void .any := .name [] (hkw _ (by decide))
  unfold additionalType
  split
  · exact hany
  · dsimp only
    split
    · exact hany
    · exact h

theorem isComment_of_mem_membersOf {d : Dialect} {f : Value → TypeExpr} {properties : Entries}
    {required : List Text} {m : Member TypeExpr} (hm : m ∈ membersOf d f properties required) :
    IsComment m.comment := by
  obtain ⟨e, -, rfl⟩ := List.mem_map.1 hm
  exact isComment_commentOf _

theorem formed_of_mem_membersOf {d : Dialect} {f : Value → TypeExpr} {properties : Entries}
    {required : List Text} (h : ∀ e ∈ properties, Formed root void (f e.2)) {m : Member TypeExpr}
    (hm : m ∈ membersOf d f properties required) : Formed root void m.type := by
  obtain ⟨e, he, rfl⟩ := List.mem_map.1 hm
  exact formed_propertyType (h e he)

theorem formed_of_mem_indexType {d : Dialect} {f : Value → TypeExpr} {additional : Value}
    (hkw : ∀ w ∈ keywords, root w) (h : hasAdditional additional → Formed root void (f additional))
    {t : TypeExpr} (ht : t ∈ indexType d f additional) : Formed root void t := by
  unfold indexType at ht
  split at ht
  · next ha =>
    rw [← Option.some.inj ht]
    exact formed_additionalType hkw (h ha)
  · simp at ht

theorem formed_of_mem_ownBlock {members : List (Member TypeExpr)} {index : Option TypeExpr}
    (hcomment : ∀ m ∈ members, IsComment m.comment)
    (htype : ∀ m ∈ members, Formed root void m.type) (hindex : ∀ t ∈ index, Formed root void t)
    {t : TypeExpr} (ht : t ∈ ownBlock members index) : Formed root void t := by
  unfold ownBlock at ht
  split at ht
  · simp at ht
  · rw [List.mem_singleton.1 ht]
    exact .block hcomment htype hindex

theorem formed_objectOf {members : List (Member TypeExpr)} {bases : List TypeExpr}
    {index : Option TypeExpr} (hbases : ∀ t ∈ bases, Formed root void t)
    (hown : ∀ t ∈ ownBlock members index, Formed root void t) :
    Formed root void (objectOf members bases index) := by
  unfold objectOf
  split
  · exact .openObject
  · next hopen =>
    -- there is a member, a base or an index, so the intersection is not one of nothing
    refine formed_intersectionOf (fun hnil => ?_) fun t ht => ?_
    · rw [List.append_eq_nil_iff, ownBlock] at hnil
      exact absurd hnil.2 (by simp_all)
    · rcases List.mem_append.1 ht with ht | ht
      · exact hbases t ht
      · exact hown t ht

/-- **The type of a schema is formed**, when its rendered pointers have good roots; it has
unions and intersections of nothing only where the schema lists no choices, or in
Swagger 2. -/
theorem formed_typeOf {d : Dialect} (hkw : ∀ w ∈ keywords, root w) (hd : d = .swagger2 → void)
    (schema : Value) (hroots : PointerRoots d root schema)
    (hempty : HasEmptyChoice d schema → void) : Formed root void (typeOf d schema) := by
  induction schema using rendered_induction d with
  | step schema ih =>
    have hchild : ∀ v ∈ (Node.ofValue schema).rendered d, Formed root void (typeOf d v) :=
      fun v hv => ih v hv (hroots.inside hv) fun h => hempty (h.of_inside hv)
    rw [typeOf_eq, Node.typeWith]
    split
    · next hs => exact absurd hs (Node.ofValue_shape_ne_bare schema)
    · next path hs =>
      rw [Pointer.type_eq]
      exact .name _ (hroots schema (.self schema) path hs)
    · next values hs =>
      refine formed_unionOf (fun hnil => ?_) fun t ht => ?_
      · rw [List.map_eq_nil_iff.1 hnil] at hs
        exact hempty ⟨schema, .self schema, .inl hs⟩
      · obtain ⟨v, -, rfl⟩ := List.mem_map.1 ht
        exact .literal _
    · exact formed_primitiveType hkw _
    · next variants hs =>
      cases d with
      -- Swagger 2 makes no type of a combination
      | swagger2 => exact .nothing (hd rfl)
      | openapi3 =>
        have hv : ∀ v ∈ variants, Formed root void (typeOf .openapi3 v) := fun v hv =>
          hchild v (by simpa [Node.rendered, Node.children, hs] using hv)
        have hne : variants = [] → void := fun hnil =>
          hempty ⟨schema, .self schema, .inr (hnil ▸ hs)⟩
        simp only [unionType]
        split
        · exact formed_unionOf (by simpa using hne) (by simpa using hv)
        · refine formed_intersectionOf (by simpa using hne) fun t ht => ?_
          obtain ⟨v, hmem, rfl⟩ := List.mem_map.1 ht
          exact .partially (hv v hmem)
    · next items hs => exact .array (hchild items (by simp [Node.rendered, Node.children, hs]))
    · next properties required allOf additional hs =>
      rw [objectType_eq]
      refine formed_objectOf (fun t ht => ?_) fun t ht => ?_
      · obtain ⟨v, hv, rfl⟩ := List.mem_map.1 ht
        exact hchild v (Node.rendered_base hs hv)
      · refine formed_of_mem_ownBlock (fun m hm => isComment_of_mem_membersOf hm)
          (fun m hm => formed_of_mem_membersOf (fun e he => ?_) hm) (fun t ht => ?_) ht
        · exact hchild e.2 (Node.rendered_property hs he)
        · exact formed_of_mem_indexType hkw
            (fun ha => hchild additional (Node.rendered_additional hs ha)) ht
    · exact .name [] (hkw _ (by decide))

end ApiTypes.Schema
