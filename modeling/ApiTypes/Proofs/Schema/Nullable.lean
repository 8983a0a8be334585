import ApiTypes.Proofs.Schema.Edited
import ApiTypes.Proofs.Schema.Keywords

/-!
# Where the dialects differ

Apart from combinations by `oneOf` and `anyOf`, of which Swagger 2 makes no type, a schema has
one type in both dialects, but for the properties that may be null: in OpenAPI 3 the type of
such a property says so, in Swagger 2 it does not. `ApiTypes.Schema.typeText_dialects` states
this in three ways.

* The OpenAPI 3 type is the Swagger 2 type with its property signatures edited
  (`ApiTypes.Schema.withNull`, `ApiTypes.Schema.typeOf_openapi3_eq`).
* Where no property may be null, the two are the same.
* The keyword `nullable` may be taken out of every schema that is no property of an object,
  at all depths (`ApiTypes.Schema.dropNull`, `ApiTypes.Schema.dropNullInside`), and no type
  changes in either dialect.
-/

namespace ApiTypes.Schema

open TypeScript

variable {d : Dialect} {schema : Value}

/-! ### Properties that may be null -/

/-- A schema that allows null: a mapping in which the keyword `nullable` is the truth value
true. -/
def AllowsNull (schema : Value) : Prop :=
  ∃ es, schema = .map es ∧ Entries.field? es "nullable" = some (.bool true)

theorem allowsNull_iff (schema : Value) :
    AllowsNull schema ↔ (Node.ofValue schema).nullable = true := by
  constructor
  · rintro ⟨es, rfl, hes⟩
    simp [Node.ofValue, isNullable, hes]
  · intro h
    cases schema with
    | map es =>
      refine ⟨es, rfl, ?_⟩
      simp only [Node.ofValue, isNullable] at h
      split at h
      · next b hb => rw [hb, h]
      · simp at h
    | _ => simp [Node.ofValue] at h

instance : DecidablePred AllowsNull := fun schema =>
  decidable_of_iff _ (allowsNull_iff schema).symm

/-- A property signature whose type says whether the schema of the property allows null. -/
def withNull (schema : Value) (m : Member TypeExpr) : Member TypeExpr :=
  if AllowsNull schema then { m with type := .nullable m.type } else m

/-- No rendered schema is a combination by `oneOf` or `anyOf`. -/
def NoCombination (schema : Value) : Prop :=
  ∀ v, Rendered .swagger2 schema v → classify v ≠ .oneOf ∧ classify v ≠ .anyOf

/-- Some rendered object has a property that may be null. -/
def HasNullProperty (schema : Value) : Prop :=
  ∃ v, Rendered .swagger2 schema v ∧ ∃ properties required allOf additional,
    (Node.ofValue v).shape = .object properties required allOf additional ∧
      ∃ e ∈ properties, AllowsNull e.2

/-- Only combinations have the shape of one. -/
theorem classify_of_union {variants : List Value}
    (h : (Node.ofValue schema).shape = .union variants) :
    classify schema = .oneOf ∨ classify schema = .anyOf := by
  cases schema with
  | map es =>
    rw [Node.ofValue] at h
    cases hc : classify (.map es) with
    | oneOf => exact .inl rfl
    | anyOf => exact .inr rfl
    | _ => simp [hc, Shape.ofEntries] at h
  | _ => simp [Node.ofValue] at h

section Level

variable {f : Value → TypeExpr}

theorem memberOf_openapi3 (required : List Text) (key schema : Value) :
    memberOf .openapi3 f required key schema =
      withNull schema (memberOf .swagger2 f required key schema) := by
  by_cases h : AllowsNull schema
  · simp [memberOf, withNull, propertyType, h, (allowsNull_iff schema).1 h]
  · have hn := h
    rw [allowsNull_iff, Bool.not_eq_true] at hn
    simp [memberOf, withNull, propertyType, h, hn]

/-- Further properties that are allowed by the truth value true have the type that the truth
value has as a schema. -/
theorem additionalType_openapi3 (htrue : f (.bool true) = .any) (additional : Value) :
    additionalType .openapi3 f additional = additionalType .swagger2 f additional := by
  cases additional with
  | bool b =>
    cases b with
    | true => simp [additionalType, htrue]
    | false => rfl
  | _ => rfl

/-- **One level of the difference**: given the same types inside, the types of a node that is no
combination differ at its own properties alone. -/
theorem Node.typeWith_openapi3 {node : Node} (hunion : ∀ variants, node.shape ≠ .union variants)
    (htrue : f (.bool true) = .any) :
    node.typeWith .openapi3 f = node.editedWith .swagger2 withNull f := by
  obtain ⟨category, description, nullable, shape⟩ := node
  cases shape with
  | union variants => exact absurd rfl (hunion variants)
  | object properties required allOf additional =>
    have hmembers : membersOf .openapi3 f properties required =
        editedMembers .swagger2 withNull f properties required :=
      List.map_congr_left fun e _ => memberOf_openapi3 required e.1 e.2
    have hindex : indexType .openapi3 f additional = indexType .swagger2 f additional := by
      rw [indexType, indexType, additionalType_openapi3 htrue]
    simp only [Node.typeWith, Node.editedWith, objectType_eq, hmembers, hindex]
  | _ => rfl

end Level

/-- **In OpenAPI 3 a schema has its Swagger 2 type with its nullable properties made so.** -/
theorem typeOf_openapi3_eq (h : NoCombination schema) :
    typeOf .openapi3 schema = editedTypeOf .swagger2 withNull schema := by
  induction schema using rendered_induction .swagger2 with
  | step schema ih =>
    obtain ⟨hself, hinside⟩ := forall_rendered_iff.1 h
    have hunion : ∀ variants, (Node.ofValue schema).shape ≠ .union variants := by
      intro variants hs
      rcases classify_of_union hs with hc | hc
      · exact hself.1 hc
      · exact hself.2 hc
    -- without combinations all schemas inside of the node are rendered
    have hchildren : ∀ v ∈ (Node.ofValue schema).children,
        typeOf .openapi3 v = editedTypeOf .swagger2 withNull v := by
      intro v hv
      have hmem : v ∈ (Node.ofValue schema).rendered .swagger2 := by
        unfold Node.rendered
        split
        · next hs => exact absurd hs (hunion _)
        · exact hv
      exact ih v hmem (hinside v hmem)
    rw [typeOf_eq, Node.typeWith_congr hchildren, editedTypeOf_eq]
    exact Node.typeWith_openapi3 hunion rfl

/-! ### Schemas that say nothing about null -/

/-- A schema without its own keyword `nullable`. -/
def dropNull : Value → Value
  | .map es => .map (Entries.erase (.str "nullable") es)
  | v => v

mutual

/-- A schema in which only properties, and the schema itself, say anything about null. -/
def dropNullInside : Value → Value
  | .map es => .map (dropNullEntries es)
  | v => v
termination_by structural v => v

/-- The entries of a schema, without what the schemas in them say about null. -/
def dropNullEntries : List (Value × Value) → List (Value × Value)
  | [] => []
  | (key, v) :: es => (key, dropNullValue key v) :: dropNullEntries es
termination_by structural es => es

/-- The value of a keyword, without what the schemas in it say about null. -/
def dropNullValue (key : Value) : Value → Value
  | .map es =>
    if isKeyword ["items", "additionalProperties"] key then dropNull (.map (dropNullEntries es))
    else if isKeyword ["properties"] key then .map (dropNullProperties es)
    else .map es
  | .list items =>
    if isKeyword ["allOf", "oneOf", "anyOf"] key then .list (dropNullItems items) else .list items
  | v => v
termination_by structural v => v

/-- Some properties; what they say about null themselves is kept. -/
def dropNullProperties : List (Value × Value) → List (Value × Value)
  | [] => []
  | (key, v) :: es => (key, dropNullInside v) :: dropNullProperties es
termination_by structural es => es

/-- Some schemas, without what they say about null. -/
def dropNullItems : List Value → List Value
  | [] => []
  | v :: vs => dropNull (dropNullInside v) :: dropNullItems vs
termination_by structural vs => vs

end

theorem dropNullItems_eq_map (vs : List Value) :
    dropNullItems vs = vs.map fun v => dropNull (dropNullInside v) := by
  induction vs with
  | nil => rfl
  | cons v vs ih => rw [dropNullItems, ih, List.map_cons]

theorem dropNullProperties_eq_map (es : Entries) :
    dropNullProperties es = es.map fun e => (e.1, dropNullInside e.2) := by
  induction es with
  | nil => rfl
  | cons e es ih => rw [dropNullProperties, ih, List.map_cons]

/-! ### What becomes of the keywords -/

section Keywords

variable {es : Entries}

theorem field?_dropNullEntries (name : String) (es : Entries) :
    Entries.field? (dropNullEntries es) name =
      (Entries.field? es name).map (dropNullValue (.str name)) := by
  induction es with
  | nil => rfl
  | cons e es ih =>
    obtain ⟨key, v⟩ := e
    rw [dropNullEntries, Entries.field?, Entries.field?, Entries.get?, Entries.get?]
    split
    · next hkey =>
      rw [Value.sameKey_str_right.1 hkey]
      rfl
    · exact ih

theorem valueField_dropNullEntries (name : String) (es : Entries) :
    valueField (dropNullEntries es) name = dropNullValue (.str name) (valueField es name) := by
  rw [valueField, field?_dropNullEntries, valueField]
  cases Entries.field? es name with
  | none => rfl
  | some v => rfl

/-- Keywords that are no places of schemas keep their values. -/
theorem dropNullValue_of_not_mem {name : String}
    (h : name ∉ ["items", "additionalProperties", "properties", "allOf", "oneOf", "anyOf"])
    (v : Value) : dropNullValue (.str name) v = v := by
  simp only [List.mem_cons, List.not_mem_nil, or_false, not_or] at h
  cases v with
  | map es => simp [dropNullValue, isKeyword, Value.str?, h]
  | list items => simp [dropNullValue, isKeyword, Value.str?, h]
  | _ => rfl

/-- The schema of a keyword, and all inside of it, is without its word about null. -/
theorem dropNullValue_schema {name : String} (h : name ∈ ["items", "additionalProperties"])
    (v : Value) : dropNullValue (.str name) v = dropNull (dropNullInside v) := by
  have hlist : isKeyword ["allOf", "oneOf", "anyOf"] (.str name) = false := by
    simp only [List.mem_cons, List.not_mem_nil, or_false] at h
    rcases h with rfl | rfl <;> decide
  cases v with
  | map es => rw [dropNullValue, if_pos (by simpa [isKeyword, Value.str?] using h), dropNullInside]
  | list items => simp [dropNullValue, hlist, dropNullInside, dropNull]
  | _ => rfl

/-- So is each schema of a list of schemas. -/
theorem listField_dropNullEntries {name : String} (h : name ∈ ["allOf", "oneOf", "anyOf"])
    (es : Entries) :
    listField (dropNullEntries es) name =
      (listField es name).map fun v => dropNull (dropNullInside v) := by
  have hkey : isKeyword ["allOf", "oneOf", "anyOf"] (.str name) = true := by
    simpa [isKeyword, Value.str?] using h
  rw [listField_eq, listField_eq, valueField_dropNullEntries]
  cases valueField es name with
  | list items => simp [dropNullValue, hkey, Value.items?, dropNullItems_eq_map]
  | map fs =>
    rw [dropNullValue]
    split
    · rfl
    · split <;> rfl
  | _ => rfl

/-- The schemas of properties keep what they say about null themselves. -/
theorem mapField_dropNullEntries (es : Entries) :
    mapField (dropNullEntries es) "properties" =
      (mapField es "properties").map fun e => (e.1, dropNullInside e.2) := by
  rw [mapField_eq, mapField_eq, valueField_dropNullEntries]
  cases valueField es "properties" with
  | map fs => simp [dropNullValue, isKeyword, Value.str?, Value.entries?, dropNullProperties_eq_map]
  | list items => simp [dropNullValue, isKeyword, Value.str?, Value.entries?]
  | _ => rfl

/-- What is a list stays one. -/
theorem isSome_items?_dropNullValue (key v : Value) :
    (dropNullValue key v).items?.isSome = v.items?.isSome := by
  cases v with
  | map es =>
    rw [dropNullValue]
    split
    · rfl
    · split <;> rfl
  | list items =>
    rw [dropNullValue]
    split <;> rfl
  | _ => rfl

/-- What is there as a schema stays there. -/
theorem isPresent_dropNull (v : Value) :
    isPresent (some (dropNull (dropNullInside v))) = isPresent (some v) := by
  cases v <;> rfl

theorem classify_dropNullEntries (es : Entries) :
    classify (.map (dropNullEntries es)) = classify (.map es) := by
  apply classify_congr
  · rw [valueField_dropNullEntries, dropNullValue_of_not_mem (by decide)]
  · rw [valueField_dropNullEntries, isSome_items?_dropNullValue]
  · rw [valueField_dropNullEntries, dropNullValue_of_not_mem (by decide)]
  · rw [valueField_dropNullEntries, isSome_items?_dropNullValue]
  · rw [valueField_dropNullEntries, isSome_items?_dropNullValue]
  · rw [valueField_dropNullEntries, dropNullValue_schema (by decide), isPresent_dropNull]

/-- The node of a schema keeps all but the schemas in it. -/
theorem ofValue_dropNullInside (es : Entries) :
    Node.ofValue (.map (dropNullEntries es)) =
      { Node.ofValue (.map es) with
        shape := Shape.ofEntries (dropNullEntries es) (classify (.map es)) } := by
  simp only [Node.ofValue, classify_dropNullEntries, description?_eq, isNullable_eq,
    valueField_dropNullEntries]
  rw [dropNullValue_of_not_mem (by decide), dropNullValue_of_not_mem (by decide)]

/-- Without its keyword `nullable` a schema has the same node, which does not allow null. -/
theorem ofValue_dropNull (v : Value) :
    Node.ofValue (dropNull v) = { Node.ofValue v with nullable := false } := by
  cases v with
  | map es =>
    have hfield : ∀ name, name ≠ "nullable" →
        valueField (Entries.erase (.str "nullable") es) name = valueField es name := by
      intro name hname
      rw [valueField, Entries.field?_erase, if_neg hname, valueField]
    rw [dropNull, Node.ofValue_congr_of_ne_nullable hfield, isNullable, Entries.field?_erase,
      if_pos rfl]
  | _ => rfl

end Keywords

/-! ### The type does not depend on it -/

/-- The type of a schema does not depend on what it says about null itself. -/
theorem typeOf_dropNull (d : Dialect) (v : Value) : typeOf d (dropNull v) = typeOf d v := by
  rw [typeOf_eq, ofValue_dropNull, typeOf_eq]
  rfl

/-- A property is the same when the schemas inside of it say nothing about null. -/
theorem memberOf_dropNullInside {required : List Text} {key v : Value}
    (h : typeOf d (dropNullInside v) = typeOf d v) :
    memberOf d (typeOf d) required key (dropNullInside v) =
      memberOf d (typeOf d) required key v := by
  rw [memberOf, memberOf, h]
  cases v with
  | map es =>
    rw [dropNullInside, ofValue_dropNullInside]
    rfl
  | _ => rfl

theorem membersOf_dropNullInside {properties : Entries} {required : List Text}
    (h : ∀ e ∈ properties, typeOf d (dropNullInside e.2) = typeOf d e.2) :
    membersOf d (typeOf d) (properties.map fun e => (e.1, dropNullInside e.2)) required =
      membersOf d (typeOf d) properties required := by
  rw [membersOf, membersOf, List.map_map]
  exact List.map_congr_left fun e he => memberOf_dropNullInside (h e he)

theorem indexType_dropNull {v : Value}
    (h : hasAdditional v → typeOf d (dropNullInside v) = typeOf d v) :
    indexType d (typeOf d) (dropNull (dropNullInside v)) = indexType d (typeOf d) v := by
  cases v with
  | map es =>
    have htype : typeOf d (dropNull (dropNullInside (.map es))) = typeOf d (.map es) := by
      rw [typeOf_dropNull, h rfl]
    rw [dropNullInside, dropNull] at htype ⊢
    cases d <;> simp only [indexType, hasAdditional, additionalType, htype]
  | _ => rfl

/-- The type of a schema does not depend on what the schemas inside of it say about null, except
those of properties. -/
theorem typeOf_dropNullInside (d : Dialect) (schema : Value) :
    typeOf d (dropNullInside schema) = typeOf d schema := by
  induction schema using rendered_induction d with
  | step schema ih =>
    cases schema with
    | map es =>
      have hinside : ∀ v ∈ (Node.ofValue (.map es)).rendered d,
          typeOf d (dropNull (dropNullInside v)) = typeOf d v := by
        intro v hv
        rw [typeOf_dropNull, ih v hv]
      rw [dropNullInside, typeOf_eq, ofValue_dropNullInside, typeOf_eq d (.map es)]
      cases hc : classify (.map es) with
      | unknown => exact absurd hc (classify_map_ne_unknown es)
      | ref =>
        simp only [Node.typeWith, Node.ofValue, hc, Shape.ofEntries, valueField_dropNullEntries,
          dropNullValue_of_not_mem (by decide : "$ref" ∉ _)]
      | enum =>
        simp only [Node.typeWith, Node.ofValue, hc, Shape.ofEntries, listField_eq,
          valueField_dropNullEntries, dropNullValue_of_not_mem (by decide : "enum" ∉ _)]
      | boolean | string | number =>
        simp only [Node.typeWith, Node.ofValue, hc, Shape.ofEntries]
      | anyOf | oneOf =>
        simp only [Node.typeWith, Node.ofValue, hc, Shape.ofEntries]
        rw [listField_dropNullEntries (by decide)]
        refine unionType_map fun hd v hv => hinside v ?_
        subst hd
        simpa [Node.rendered, Node.children, Node.ofValue, hc, Shape.ofEntries] using hv
      | array =>
        have hitems := hinside (valueField es "items") (by
          simp [Node.rendered, Node.children, Node.ofValue, hc, Shape.ofEntries])
        simp only [Node.typeWith, Node.ofValue, hc, Shape.ofEntries]
        rw [valueField_dropNullEntries, dropNullValue_schema (by decide), hitems]
      | object =>
        have hs : (Node.ofValue (.map es)).shape = .object (mapField es "properties")
            (requiredNames (listField es "required")) (listField es "allOf")
            (valueField es "additionalProperties") := by
          simp only [Node.ofValue, hc, Shape.ofEntries]
        have hrequired : listField (dropNullEntries es) "required" = listField es "required" := by
          rw [listField_eq, valueField_dropNullEntries, dropNullValue_of_not_mem (by decide),
            listField_eq]
        have hbases : ((listField es "allOf").map fun v => dropNull (dropNullInside v)).map
              (typeOf d) =
            (listField es "allOf").map (typeOf d) := by
          rw [List.map_map]
          exact List.map_congr_left fun v hv => hinside v (Node.rendered_base hs hv)
        have hindex := indexType_dropNull (d := d) (v := valueField es "additionalProperties")
          fun ha => ih _ (Node.rendered_additional hs ha)
        rw [Node.typeWith_of_object hs, Node.typeWith_of_object rfl, mapField_dropNullEntries,
          hrequired, listField_dropNullEntries (by decide), valueField_dropNullEntries,
          dropNullValue_schema (by decide), hbases, hindex,
          membersOf_dropNullInside fun e he => ih e.2 (Node.rendered_property hs he)]
    | _ => rfl

/-! ### The two dialects -/

/-- **The dialects differ in properties that may be null.** When no rendered schema is a
combination by `oneOf` or `anyOf`, the OpenAPI 3 text of the type of a schema is that of its
Swagger 2 type in which the type of each property whose schema allows null is a type or null.
So the two texts are the same where there is no such property. What other schemas than those of
properties say about null changes no text. -/
theorem typeText_dialects (h : NoCombination schema) :
    (typeText .openapi3 schema = (editedTypeOf .swagger2 withNull schema).text ∧
      typeText .swagger2 schema = (editedTypeOf .swagger2 (fun _ m => m) schema).text) ∧
    (¬HasNullProperty schema → typeText .openapi3 schema = typeText .swagger2 schema) ∧
    ∀ d, typeText d (dropNull (dropNullInside schema)) = typeText d schema := by
  have hopenapi : typeText .openapi3 schema = (editedTypeOf .swagger2 withNull schema).text := by
    rw [typeText, typeOf_openapi3_eq h]
  refine ⟨⟨hopenapi, ?_⟩, fun hnone => ?_, fun d => ?_⟩
  · rw [editedTypeOf_eq_typeOf fun _ _ _ _ _ _ _ _ _ _ => rfl, typeText]
  · rw [hopenapi, typeText]
    refine congrArg TypeExpr.text (editedTypeOf_eq_typeOf ?_)
    intro v hv properties required allOf additional hs e he m
    refine if_neg fun hnull => hnone ?_
    exact ⟨v, hv, properties, required, allOf, additional, hs, e, he, hnull⟩
  · rw [typeText, typeOf_dropNull, typeOf_dropNullInside, typeText]

/-- A property that is a list and may be null, in an object that may be null, of items that may
be null. -/
def nullableTags : Value := .map
  [(.str "nullable", .bool true),
    (.str "properties", .map
      [(.str "tags", .map
        [(.str "items", .map [(.str "type", .str "string"), (.str "nullable", .bool true)]),
          (.str "nullable", .bool true)])])]

/-- Of the three schemas that allow null, only that of the property shows it, and only in one of
the dialects. -/
theorem typeText_dialects_nullableTags :
    NoCombination nullableTags ∧
      typeText .openapi3 nullableTags = (TypeExpr.block
        [⟨[], "tags".toList, true, .nullable (.array (.name "string".toList []))⟩] none).text ∧
      typeText .swagger2 nullableTags = (TypeExpr.block
        [⟨[], "tags".toList, true, .array (.name "string".toList [])⟩] none).text := by
  have hnone : NoCombination nullableTags := by
    refine forall_rendered_iff.2 ⟨by decide, fun v hv => ?_⟩
    obtain rfl := List.mem_singleton.1 hv
    refine forall_rendered_iff.2 ⟨by decide, fun v hv => ?_⟩
    obtain rfl := List.mem_singleton.1 hv
    exact forall_rendered_iff.2 ⟨by decide, fun v hv => nomatch hv⟩
  obtain ⟨⟨hopenapi, hswagger⟩, -⟩ := typeText_dialects hnone
  exact ⟨hnone, hopenapi.trans rfl, hswagger.trans rfl⟩

end ApiTypes.Schema
