import ApiTypes.Hook.Rule
import ApiTypes.Proofs.Hook.Answers
import ApiTypes.Proofs.Schema.Marks

/-!
# Hooks that look at optionality only

A hook that answers with the type and the description that it is shown changes nothing about
a property but whether it is optional. Its pass does as much to the generated module: the
marks of the properties that the hook is asked about change as the hook says, and nothing
else does (`ApiTypes.Hook.typeOf_pass_marking`).

That takes an argument since the pass keeps one list of required names for all properties of an
object and edits it while it goes through them. What the hook sees of a property is what the
list said at the start, and what it answers is what the list says in the end, provided that no
other property has the same name (`ApiTypes.Hook.optional_settle`). A hook that changes nothing
does not need the proviso: it never changes what is in the list
(`ApiTypes.Hook.mem_settle_iff_of_id`).
-/

namespace ApiTypes.Hook

open Schema TypeScript

/-- The hook that shows its view back. -/
def keep : Hook (Except Failure) := fun _ view => .ok view

/-- The hook that negates whether a property is optional. -/
def flip : Hook (Except Failure) := fun _ view => .ok { view with optional := !view.optional }

/-- A hook that changes the optionality by a function, and nothing else. -/
def marking (flag : Bool → Bool) : Entries → View → View :=
  fun _ view => { view with optional := flag view.optional }

/-- What such a hook does to the mark of a property: something only if it is asked. -/
def markOf (flag : Bool → Bool) (schema : Value) (optional : Bool) : Bool :=
  if (asked? schema).isSome then flag optional else optional

theorem keep_eq_total : keep = total (marking id) := rfl

theorem flip_eq_total : flip = total (marking not) := rfl

/-- A rule that says only what becomes of the optionality gives such a hook. -/
theorem hook_optional (rule : OptionalRule) :
    ({ optional := rule } : Rule).hook = total (marking rule.apply) := rfl

theorem markOf_id (schema : Value) (optional : Bool) : markOf id schema optional = optional := by
  rw [markOf]
  split <;> rfl

/-! ### The properties -/

/-- A property that the hook has been asked about: its type and its description are written
again, or removed when they are null. -/
def restated (schema : Value) : Value :=
  match asked? schema with
  | none => schema
  | some es =>
    .map (setField "description" (valueField es "description")
      (setField "type" (valueField es "type") es))

variable {flag : Bool → Bool} {required : Option (List Text)} {properties : Entries}

theorem settle_marking_fst (flag : Bool → Bool) (required : Option (List Text))
    (properties : Entries) :
    (settle (marking flag) required properties).1 =
      properties.map fun e => (e.1, restated e.2) := by
  induction properties generalizing required with
  | nil => rfl
  | cons e rest ih =>
    obtain ⟨key, property⟩ := e
    rw [settle, List.map_cons, restated]
    cases h : asked? property with
    | none => simp only [ih]
    | some es =>
      simp only [ih]
      rfl

/-- **Writing again what was there** does not change the node. -/
theorem ofValue_restated (schema : Value) :
    Node.ofValue (restated schema) = Node.ofValue schema := by
  unfold restated
  split
  · rfl
  · next es h =>
    rw [eq_map_of_asked? h]
    refine Node.ofValue_congr fun name => ?_
    rw [valueField_setField, valueField_setField]
    split
    · next hn => rw [hn]
    · split
      · next hn => rw [hn]
      · rfl

/-! ### The required names -/

/-- A hook that changes nothing leaves all names as they are. -/
theorem mem_settle_iff_of_id (hflag : ∀ b, flag b = b) (n : Text) :
    n ∈ (settle (marking flag) required properties).2.getD [] ↔ n ∈ required.getD [] := by
  induction properties generalizing required with
  | nil => rfl
  | cons e rest ih =>
    obtain ⟨key, property⟩ := e
    rw [settle]
    cases ha : asked? property with
    | none => exact ih
    | some es =>
      refine ih.trans ((mem_require_iff _ _ _ _).trans ?_)
      split
      · next hn =>
        rw [marking, hflag, viewOf_optional, hn]
        simp
      · rfl

/-- **The marks after the pass**: each is changed as the hook says, if no two properties have
one name or if the hook changes nothing. -/
theorem optional_settle
    (h : (∀ b, flag b = b) ∨ (properties.map fun e => e.1.text).Nodup)
    (required : Option (List Text)) {e : Value × Value} (he : e ∈ properties) :
    decide (e.1.text ∉ (settle (marking flag) required properties).2.getD []) =
      markOf flag e.2 (decide (e.1.text ∉ required.getD [])) := by
  rcases h with hflag | hnodup
  · have hmark : markOf flag e.2 (decide (e.1.text ∉ required.getD [])) =
        decide (e.1.text ∉ required.getD []) := by
      rw [markOf, hflag, ite_self]
    rw [hmark, decide_eq_decide, mem_settle_iff_of_id hflag]
  · have hafter : optionalAfter (marking flag) required e =
        markOf flag e.2 (decide (e.1.text ∉ required.getD [])) := by
      rw [optionalAfter, markOf]
      cases asked? e.2 with
      | none => rfl
      | some es => exact congrArg flag (viewOf_optional required e.1.text es)
    rw [decide_settle_of_nodup hnodup required he, hafter]

/-! ### Types after the pass -/

/-- In each rendered object no two properties have one name. -/
def DistinctNames (d : Dialect) (schema : Value) : Prop :=
  ∀ v, Rendered d schema v → ∀ properties required allOf additional,
    (Node.ofValue v).shape = .object properties required allOf additional →
      (properties.map fun e => e.1.text).Nodup

section Types

variable {d : Dialect} {flag : Bool → Bool}

theorem DistinctNames.inside {schema v : Value} (h : DistinctNames d schema)
    (hv : v ∈ (Node.ofValue schema).rendered d) : DistinctNames d v :=
  fun w hw => h w (.inside hv hw)

theorem typeOf_restated (d : Dialect) (schema : Value) :
    typeOf d (restated schema) = typeOf d schema := by
  rw [typeOf_eq, ofValue_restated, ← typeOf_eq]

theorem markedTypeOf_of_not_map {mark : Value → Bool → Bool} {v : Value}
    (h : v.isMap = false) : markedTypeOf d mark v = .any := by
  rw [markedTypeOf_eq]
  cases v with
  | map es => simp [Value.isMap] at h
  | _ => rfl

theorem typeOf_eachOrOne {F : Value → Value} {mark : Value → Bool → Bool} {v : Value}
    (h : typeOf d (F v) = markedTypeOf d mark v) :
    typeOf d (eachOrOne F v) = markedTypeOf d mark v := by
  cases v with
  | list items => rw [eachOrOne, typeOf_of_not_map rfl, markedTypeOf_of_not_map rfl]
  | _ => exact h

theorem additionalType_pass {f f' : Value → TypeExpr} {g : Entries → View → View}
    {additional : Value} (h : f (pass g additional) = f' additional) :
    additionalType d f (pass g additional) = additionalType d f' additional := by
  cases additional with
  | map es =>
    rw [pass_map] at h ⊢
    cases d <;> simp only [additionalType, h]
  | _ =>
    rw [pass_of_not_map g rfl] at h ⊢
    exact additionalType_congr h

theorem indexType_pass {f f' : Value → TypeExpr} {g : Entries → View → View} {additional : Value}
    (h : hasAdditional additional → f (pass g additional) = f' additional) :
    indexType d f (pass g additional) = indexType d f' additional := by
  rw [indexType, indexType, hasAdditional_pass]
  split
  · next ha => rw [additionalType_pass (h ha)]
  · rfl

/-- The member of a property after the pass, and the same with the marks that the hook sets. -/
theorem memberOf_restated {names names' : List Text} {key schema : Value}
    (htype : typeOf d (pass (marking flag) schema) = markedTypeOf d (markOf flag) schema)
    (hmark : decide (key.text ∉ names') = markOf flag schema (decide (key.text ∉ names))) :
    memberOf d (typeOf d) names' key (restated (pass (marking flag) schema)) =
      markedMember d (markOf flag) (markedTypeOf d (markOf flag)) names key schema := by
  obtain ⟨hdescription, hnullable⟩ := ofValue_pass (marking flag) schema
  simp only [memberOf, markedMember, commentOf, propertyType, ofValue_restated, typeOf_restated,
    htype, hmark, hdescription, hnullable]

/-- **The members after the pass** are those of before with the marks that the hook sets. -/
theorem membersOf_settle (required : Option (List Text)) {properties : Entries}
    (htype : ∀ e ∈ properties,
      typeOf d (pass (marking flag) e.2) = markedTypeOf d (markOf flag) e.2)
    (h : (∀ b, flag b = b) ∨ (properties.map fun e => e.1.text).Nodup)
    {settled : Entries × Option (List Text)}
    (hsettled : settled = settle (marking flag) required
      (properties.map fun e => (e.1, pass (marking flag) e.2))) :
    membersOf d (typeOf d) settled.1 (settled.2.getD []) =
      markedMembers d (markOf flag) (markedTypeOf d (markOf flag)) properties
        (required.getD []) := by
  have hnames : (∀ b, flag b = b) ∨
      ((properties.map fun e => (e.1, pass (marking flag) e.2)).map fun e => e.1.text).Nodup := by
    rcases h with h | h
    · exact .inl h
    · rw [List.map_map]
      exact .inr h
  -- the properties themselves are only restated; the names decide about the marks
  have hfirst : settled.1 =
      properties.map fun e => (e.1, restated (pass (marking flag) e.2)) := by
    rw [hsettled, settle_marking_fst, List.map_map]
    rfl
  rw [hfirst, membersOf, markedMembers, List.map_map]
  refine List.map_congr_left fun e he => memberOf_restated (htype e he) ?_
  have hmark := optional_settle hnames required (List.mem_map_of_mem he)
  rw [← hsettled, markOf, isSome_asked?_pass] at hmark
  exact hmark

/-- **The type after the pass** of a hook that looks at optionality only is the type with the
marks that the hook sets. -/
theorem typeOf_pass_marking (schema : Value)
    (h : (∀ b, flag b = b) ∨ DistinctNames d schema) :
    typeOf d (pass (marking flag) schema) = markedTypeOf d (markOf flag) schema := by
  induction schema using rendered_induction d with
  | step schema ih =>
    have hchild : ∀ v ∈ (Node.ofValue schema).rendered d,
        typeOf d (pass (marking flag) v) = markedTypeOf d (markOf flag) v :=
      fun v hv => ih v hv (h.imp_right fun h => h.inside hv)
    cases schema with
    | map es =>
      -- the category is that of before, so both types are made in the same way
      rw [pass_map, typeOf_eq, ofValue_level (fun _ => pass_of_not_map _) (isMap_pass_map _),
        markedTypeOf_eq]
      cases hc : classify (.map es) with
      | unknown => exact absurd hc (classify_map_ne_unknown es)
      | ref =>
        simp only [Node.markedWith, Node.typeWith, Node.ofValue, hc, Shape.ofEntries,
          valueField_level (by decide : "$ref" ∉ _)]
      | enum =>
        simp only [Node.markedWith, Node.typeWith, Node.ofValue, hc, Shape.ofEntries, listField_eq,
          valueField_level (by decide : "enum" ∉ _)]
      | boolean | string | number =>
        simp only [Node.markedWith, Node.typeWith, Node.ofValue, hc, Shape.ofEntries]
      | anyOf | oneOf =>
        simp only [Node.markedWith, Node.typeWith, Node.ofValue, hc, Shape.ofEntries]
        rw [listField_level (by decide)]
        refine unionType_map fun hd v hv => hchild v ?_
        subst hd
        simpa [Node.rendered, Node.children, Node.ofValue, hc, Shape.ofEntries] using hv
      | array =>
        simp only [Node.markedWith, Node.typeWith, Node.ofValue, hc, Shape.ofEntries]
        rw [valueField_level_items fun _ => pass_of_not_map _, typeOf_eachOrOne (hchild _ ?_)]
        simp [Node.rendered, Node.children, Node.ofValue, hc, Shape.ofEntries]
      | object =>
        have hs : (Node.ofValue (.map es)).shape = .object (mapField es "properties")
            (requiredNames (listField es "required")) (listField es "allOf")
            (valueField es "additionalProperties") := by
          simp only [Node.ofValue, hc, Shape.ofEntries]
        have hbases : (listField es "allOf").map (fun v => typeOf d (pass (marking flag) v)) =
            (listField es "allOf").map (markedTypeOf d (markOf flag)) :=
          List.map_congr_left fun v hv => hchild v (Node.rendered_base hs hv)
        have hindex : indexType d (typeOf d)
              (pass (marking flag) (valueField es "additionalProperties")) =
            indexType d (markedTypeOf d (markOf flag)) (valueField es "additionalProperties") :=
          indexType_pass fun ha => hchild _ (Node.rendered_additional hs ha)
        have hmembers := membersOf_settle (requiredOf es)
          (fun e he => hchild e.2 (Node.rendered_property hs he))
          (h.imp_right fun h => h _ (.self _) _ _ _ _ hs) rfl
        rw [Node.markedWith, hs]
        simp only [Node.typeWith, Shape.ofEntries]
        rw [objectType_eq, mapField_level_properties, requiredNames_level,
          listField_level (by decide), valueField_level_additional fun _ => pass_of_not_map _,
          List.map_map, hindex, ← requiredOf_getD, ← hmembers]
        exact congrArg (fun bases => objectOf _ bases _) hbases
    | _ => rw [pass_of_not_map _ rfl, typeOf_of_not_map rfl, markedTypeOf_of_not_map rfl]

end Types

/-! ### Modules after the pass -/

/-- **The module after the pass** of a hook that looks at optionality only. -/
theorem moduleText_pass_marking {d : Dialect} {flag : Bool → Bool} {schemas : Entries}
    (h : (∀ b, flag b = b) ∨ ∀ e ∈ schemas, DistinctNames d e.2) :
    moduleText d (schemas.map fun e => (e.1, pass (marking flag) e.2)) =
      markedModuleText d (markOf flag) schemas := by
  have hmembers : membersOf d (typeOf d) (schemas.map fun e => (e.1, pass (marking flag) e.2))
        ((schemas.map fun e => (e.1, pass (marking flag) e.2)).map fun e => e.1.text) =
      membersOf d (markedTypeOf d (markOf flag)) schemas (schemas.map fun e => e.1.text) := by
    have hnames : ((schemas.map fun e => (e.1, pass (marking flag) e.2)).map fun e => e.1.text) =
        schemas.map fun e => e.1.text := List.map_map
    rw [hnames, membersOf, membersOf, List.map_map]
    refine List.map_congr_left fun e he => ?_
    obtain ⟨hdescription, hnullable⟩ := ofValue_pass (marking flag) e.2
    have htype : typeOf d (pass (marking flag) e.2) = markedTypeOf d (markOf flag) e.2 :=
      typeOf_pass_marking e.2 (h.imp_right fun h => h e he)
    simp only [Function.comp, memberOf, commentOf, propertyType, htype, hdescription, hnullable]
  rw [moduleText, moduleMembers, membersText, hmembers, markedModuleText]

/-- **A hook that shows its view back changes nothing** about the generated module. -/
theorem moduleText_keep (d : Dialect) (schemas : Entries) :
    (mapSchemas keep schemas).map (moduleText d) = .ok (moduleText d schemas) := by
  have hpass : moduleText d (schemas.map fun e => (e.1, pass (marking id) e.2)) =
      markedModuleText d (markOf id) schemas :=
    moduleText_pass_marking (.inl fun _ => rfl)
  rw [keep_eq_total, mapSchemas_total, ← markedModuleText_eq_moduleText markOf_id, ← hpass]
  rfl

/-- **A hook that negates optionality swaps the marks** of the properties that it is asked
about. It changes nothing else about the generated module, whose types without their marks
are those of before. -/
theorem moduleText_flip (d : Dialect) (schemas : Entries)
    (h : ∀ e ∈ schemas, DistinctNames d e.2) :
    (mapSchemas flip schemas).map (moduleText d) =
        .ok (markedModuleText d (markOf not) schemas) ∧
      ∀ e ∈ schemas, (markedTypeOf d (markOf not) e.2).unmarked = (typeOf d e.2).unmarked := by
  refine ⟨?_, fun e _ => unmarked_markedTypeOf d (markOf not) e.2⟩
  rw [flip_eq_total, mapSchemas_total, ← moduleText_pass_marking (.inr h)]
  rfl

/-- A schema with a required pointer, an optional property and a required one. -/
def petSchemas : Entries :=
  [(.str "Pet", .map
    [(.str "required", .list [.str "owner", .str "age"]),
      (.str "properties", .map
        [(.str "owner", .map [(.str "$ref", .str "#/components/schemas/Owner")]),
          (.str "tag", .map [(.str "type", .str "string")]),
          (.str "age", .map [(.str "type", .str "integer")])])])]

/-- The pointer stays required, and the marks of the two other properties are swapped. -/
theorem moduleText_flip_petSchemas :
    (∀ e ∈ petSchemas, DistinctNames .openapi3 e.2) ∧
      (mapSchemas flip petSchemas).map (moduleText .openapi3) = .ok
        (moduleHead .openapi3 ++
          TypeExpr.membersText [⟨[], "Pet".toList, false, .block
            [⟨[], "owner".toList, false,
                .name "components".toList ["schemas".toList, "Owner".toList]⟩,
              ⟨[], "tag".toList, false, .name "string".toList []⟩,
              ⟨[], "age".toList, true, .name "number".toList []⟩] none⟩] ++
          moduleTail .openapi3) := by
  have hdistinct : ∀ e ∈ petSchemas, DistinctNames .openapi3 e.2 := by
    intro e he
    obtain rfl := List.mem_singleton.1 he
    refine forall_rendered_iff.2 ⟨fun properties required allOf additional hs => ?_, fun v hv => ?_⟩
    · obtain ⟨rfl, -⟩ := Shape.object.inj hs
      decide
    · rcases List.mem_cons.1 (show v ∈ [_, _, _] from hv) with rfl | hv
      · exact forall_rendered_iff.2 ⟨fun _ _ _ _ hs => (nomatch hs), fun w hw => nomatch hw⟩
      · rcases List.mem_cons.1 hv with rfl | hv
        · exact forall_rendered_iff.2 ⟨fun _ _ _ _ hs => (nomatch hs), fun w hw => nomatch hw⟩
        · obtain rfl := List.mem_singleton.1 hv
          exact forall_rendered_iff.2 ⟨fun _ _ _ _ hs => (nomatch hs), fun w hw => nomatch hw⟩
  exact ⟨hdistinct, (moduleText_flip .openapi3 petSchemas hdistinct).1.trans rfl⟩

end ApiTypes.Hook
