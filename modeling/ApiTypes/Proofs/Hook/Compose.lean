import ApiTypes.Proofs.Hook.Answers
import ApiTypes.Proofs.Schema.Alike

/-!
# Hooks one after the other

Two hooks that look at the view of a property only can be sent over the named schemas one after
the other, or at once as a hook that answers with the second one's answer about the first one's.
The modules are the same (`ApiTypes.Hook.moduleText_comp`).

The schemas are not: the second pass finds the keywords in other places, and the lists of required
names in another order. What counts is that the second hook sees of each property the very view
that the first one has answered with. So the schemas after two passes and those after the one are
related by a simulation (`ApiTypes.Hook.Composed`), which at a property says that one view has
been written on both sides, and elsewhere that nothing has.
-/

namespace ApiTypes.Hook

open Schema TypeScript

/-- A hook that looks at the view of a property only. -/
def ofView (f : View → View) : Entries → View → View := fun _ view => f view

@[simp]
theorem ofView_apply (f : View → View) (es : Entries) (view : View) :
    ofView f es view = f view := rfl

/-! ### One level of a pass, up to what a view says -/

/-- Two mappings agree on all keywords but the type and the description. -/
def AgreeBut (es fs : Entries) : Prop :=
  ∀ name, name ∉ ["type", "description"] → valueField es name = valueField fs name

theorem AgreeBut.refl (es : Entries) : AgreeBut es es := fun _ _ => rfl

/-- Writing a view changes nothing else. -/
theorem agreeBut_apply (view : View) (es : Entries) : AgreeBut (view.apply es) es := by
  intro name hname
  simp only [List.mem_cons, List.not_mem_nil, or_false, not_or] at hname
  rw [valueField_apply, if_neg hname.2, if_neg hname.1]

/-- The pass through the schemas of the properties leaves their names. -/
theorem nodup_rebuiltProperties {F : Value → Value} {es : Entries}
    (h : ((mapField es "properties").map fun e => e.1.text).Nodup) :
    ((rebuiltProperties F es).map fun e => e.1.text).Nodup := by
  rw [rebuiltProperties, List.map_map]
  exact h

namespace AgreeBut

variable {g : Entries → View → View} {es after : Entries} {name : String}
  (h : AgreeBut after (level (pass g) g es))
include h

theorem valueField_eq
    (hname : name ∉ ["type", "description"] ++ "properties" :: "required" :: innerKeywords) :
    valueField after name = valueField es name := by
  rw [List.mem_append, not_or] at hname
  rw [h name hname.1, valueField_level hname.2]

theorem items?_eq (hname : name ∈ listKeywords) :
    (valueField after name).items? = (valueField es name).items?.map (List.map (pass g)) := by
  have hview : name ∉ ["type", "description"] := by
    rintro hmem
    simp only [List.mem_cons, List.not_mem_nil, or_false] at hmem
    rcases hmem with rfl | rfl <;> simp [listKeywords] at hname
  rw [h name hview, items?_level hname]

theorem listField_eq (hname : name ∈ listKeywords) :
    listField after name = (listField es name).map (pass g) := by
  rw [Schema.listField_eq, h.items?_eq hname, Schema.listField_eq]
  cases (valueField es name).items? <;> rfl

theorem items_eq : valueField after "items" = eachOrOne (pass g) (valueField es "items") := by
  rw [h "items" (by decide), valueField_level_items fun _ => pass_of_not_map g]

theorem additional_eq :
    valueField after "additionalProperties" = pass g (valueField es "additionalProperties") := by
  rw [h "additionalProperties" (by decide), valueField_level_additional fun _ => pass_of_not_map g]

variable (hnodup : ((mapField es "properties").map fun e => e.1.text).Nodup)
include hnodup

/-- The properties are answered one by one, if they have different names. -/
theorem properties_eq :
    mapField after "properties" = (mapField es "properties").map fun e =>
      (e.1, answered g (requiredOf es) (e.1, pass g e.2)) := by
  rw [mapField_eq, h "properties" (by decide), ← mapField_eq, mapField_level_properties,
    settle_fst_of_nodup (nodup_rebuiltProperties hnodup), rebuiltProperties, List.map_map]
  rfl

/-- So are their marks. -/
theorem optional_eq {e : Value × Value} (he : e ∈ mapField es "properties") :
    decide (e.1.text ∉ requiredNames (listField after "required")) =
      optionalAfter g (requiredOf es) (e.1, pass g e.2) := by
  have hmem : (e.1, pass g e.2) ∈ rebuiltProperties (pass g) es := List.mem_map_of_mem he
  rw [Schema.listField_eq, h "required" (by decide), ← Schema.listField_eq, requiredNames_level]
  exact decide_settle_of_nodup (nodup_rebuiltProperties hnodup) (requiredOf es) hmem

end AgreeBut

/-! ### Two passes and one -/

section Composed

variable (f g : View → View)

/-- **A mapping that has been rebuilt twice and once**: it was `es` before the passes, and views
may have been written between them and at the end, the same one on both sides at the end. -/
structure Rebuilt (es once twice both : Entries) : Prop where
  /-- The mapping is well named. -/
  named : WellNamed (.map es)
  /-- The first pass, up to a view. -/
  first : AgreeBut once (level (pass (ofView f)) (ofView f) es)
  /-- The second pass, up to a view. -/
  second : AgreeBut twice (level (pass (ofView g)) (ofView g) once)
  /-- The one pass of both hooks, up to a view. -/
  whole : AgreeBut both (level (pass (ofView (g ∘ f))) (ofView (g ∘ f)) es)
  /-- The types are the same. -/
  type : valueField twice "type" = valueField both "type"
  /-- So are the descriptions. -/
  description : valueField twice "description" = valueField both "description"

/-- **A schema after two passes, and after the one of both hooks.** -/
inductive Composed : Value → Value → Prop
  /-- What is no mapping is related to all that is none. -/
  | unmapped {v w : Value} : v.isMap = false → w.isMap = false → Composed v w
  /-- A mapping has been rebuilt twice and once. -/
  | mapped {es once twice both : Entries} : Rebuilt f g es once twice both →
      Composed (.map twice) (.map both)

variable {f g}

/-- A schema that is no property is related after the passes. -/
theorem composed_pass {v : Value} (hv : WellNamed v) :
    Composed f g (pass (ofView g) (pass (ofView f) v)) (pass (ofView (g ∘ f)) v) := by
  cases v with
  | map es =>
    rw [pass_map, pass_map, pass_map]
    refine .mapped ⟨hv, .refl _, .refl _, .refl _, ?_, ?_⟩
    · rw [valueField_level (by decide), valueField_level (by decide), valueField_level (by decide)]
    · rw [valueField_level (by decide), valueField_level (by decide), valueField_level (by decide)]
  | _ => exact .unmapped rfl rfl

/-- The items of an array are related, several of them and a single one. -/
theorem composed_eachOrOne {v : Value} (hv : v.isMap → WellNamed v) :
    Composed f g (eachOrOne (pass (ofView g)) (eachOrOne (pass (ofView f)) v))
      (eachOrOne (pass (ofView (g ∘ f))) v) := by
  cases v with
  | map es =>
    have h := composed_pass (f := f) (g := g) (hv rfl)
    change Composed f g (eachOrOne _ (pass (ofView f) (.map es))) (pass _ (.map es))
    rw [pass_map (ofView f)] at h ⊢
    exact h
  | _ => exact .unmapped rfl rfl

/-- A hook is asked about a mapping without a pointer, and so it is after a pass. -/
theorem asked?_level (k : View → View) {es : Entries}
    (h : (valueField es "$ref").truthy = false) :
    asked? (.map (level (pass (ofView k)) (ofView k) es)) =
      some (level (pass (ofView k)) (ofView k) es) := by
  rw [asked?_map, valueField_level (by decide), h]
  rfl

/-- A hook is asked about nothing else after a pass. -/
theorem asked?_pass_eq_none (k : View → View) {v : Value} (h : asked? v = none) :
    asked? (pass (ofView k) v) = none := by
  rw [← Option.not_isSome_iff_eq_none, isSome_asked?_pass, h]
  simp

/-- What a hook sees of a property is not changed by the pass through the schemas in it. -/
theorem viewOf_level {F : Value → Value} {k : Entries → View → View}
    (required : Option (List Text)) (name : Text) (es : Entries) :
    viewOf required name (level F k es) = viewOf required name es := by
  rw [viewOf_eq, viewOf_eq, valueField_level (by decide), valueField_level (by decide)]

/-- **What a hook sees of a property is the view that has been written** into it and into the
required names. -/
theorem viewOf_apply {required : Option (List Text)} {name : Text} {view : View}
    (h : decide (name ∉ required.getD []) = view.optional) (es : Entries) :
    viewOf required name (view.apply es) = view := by
  rw [viewOf_eq, h, valueField_apply_type, valueField_apply_description]

/-- A property that the hooks are not asked about is the same as a schema that is none. -/
theorem composed_answered_of_not_asked {key v : Value} {required required' : Option (List Text)}
    (hv : WellNamed v) (h : asked? v = none)
    (hrequired : decide (key.text ∉ required'.getD []) = decide (key.text ∉ required.getD [])) :
    Composed f g (answered (ofView g) required' (key, pass (ofView g) (pass (ofView f) v)))
        (answered (ofView (g ∘ f)) required (key, pass (ofView (g ∘ f)) v)) ∧
      optionalAfter (ofView g) required' (key, pass (ofView g) (pass (ofView f) v)) =
        optionalAfter (ofView (g ∘ f)) required (key, pass (ofView (g ∘ f)) v) := by
  have htwice := answered_of_not_asked (ofView g) required' key
    (asked?_pass_eq_none g (asked?_pass_eq_none f h))
  have hboth := answered_of_not_asked (ofView (g ∘ f)) required key (asked?_pass_eq_none (g ∘ f) h)
  rw [htwice.1, htwice.2, hboth.1, hboth.2, hrequired]
  exact ⟨composed_pass hv, rfl⟩

/-- **A property that the hooks are asked about**, where the first one answers with `view`: the
second one sees this view, and so it answers as both of them do at once. -/
theorem composed_answered_of_asked {key : Value} {es : Entries}
    {required required' : Option (List Text)} {view : View} (hes : WellNamed (.map es))
    (h : (valueField es "$ref").truthy = false) (hview : f (viewOf required key.text es) = view)
    (hrequired : decide (key.text ∉ required'.getD []) = view.optional) :
    let once := Value.map (view.apply (level (pass (ofView f)) (ofView f) es))
    Composed f g (answered (ofView g) required' (key, pass (ofView g) once))
        (answered (ofView (g ∘ f)) required (key, pass (ofView (g ∘ f)) (.map es))) ∧
      optionalAfter (ofView g) required' (key, pass (ofView g) once) =
        optionalAfter (ofView (g ∘ f)) required (key, pass (ofView (g ∘ f)) (.map es)) := by
  intro once
  have href : (valueField (view.apply (level (pass (ofView f)) (ofView f) es)) "$ref").truthy =
      false := by
    rw [valueField_apply, if_neg (by decide), if_neg (by decide), valueField_level (by decide), h]
  obtain ⟨htwice, htwice'⟩ := answered_of_asked (ofView g) required' key (asked?_level g href)
  obtain ⟨hboth, hboth'⟩ := answered_of_asked (ofView (g ∘ f)) required key (asked?_level (g ∘ f) h)
  rw [viewOf_level, viewOf_apply hrequired] at htwice htwice'
  rw [viewOf_level] at hboth hboth'
  have hanswer : (g ∘ f) (viewOf required key.text es) = g view := congrArg g hview
  rw [ofView_apply] at htwice htwice' hboth hboth'
  rw [hanswer] at hboth hboth'
  rw [pass_map, pass_map, htwice, htwice', hboth, hboth']
  refine ⟨.mapped ⟨hes, agreeBut_apply _ _, agreeBut_apply _ _, agreeBut_apply _ _, ?_, ?_⟩, rfl⟩
  · rw [valueField_apply_type, valueField_apply_type]
  · rw [valueField_apply_description, valueField_apply_description]

/-- **A property after two passes and after one**, where `once` is what is left of it between the
two. -/
theorem composed_answered (required required' : Option (List Text)) (key : Value)
    {v once : Value} (hv : WellNamed v)
    (honce : answered (ofView f) required (key, pass (ofView f) v) = once)
    (hrequired : decide (key.text ∉ required'.getD []) =
      optionalAfter (ofView f) required (key, pass (ofView f) v)) :
    Composed f g (answered (ofView g) required' (key, pass (ofView g) once))
        (answered (ofView (g ∘ f)) required (key, pass (ofView (g ∘ f)) v)) ∧
      optionalAfter (ofView g) required' (key, pass (ofView g) once) =
        optionalAfter (ofView (g ∘ f)) required (key, pass (ofView (g ∘ f)) v) := by
  cases ha : asked? v with
  | none =>
    have hf := answered_of_not_asked (ofView f) required key (asked?_pass_eq_none f ha)
    obtain rfl := hf.1.symm.trans honce
    exact composed_answered_of_not_asked hv ha (hrequired.trans hf.2)
  | some es =>
    obtain rfl := eq_map_of_asked? ha
    have href : (valueField es "$ref").truthy = false := by
      rw [asked?_map] at ha
      by_contra h
      simp [h] at ha
    have hf := answered_of_asked (ofView f) required key (asked?_level f href)
    rw [viewOf_level] at hf
    rw [pass_map] at honce hrequired
    obtain rfl := hf.1.symm.trans honce
    exact composed_answered_of_asked hv href rfl (hrequired.trans hf.2)

/-! ### The node after two passes and after one -/

namespace Rebuilt

variable {es once twice both : Entries} {name : String} (h : Rebuilt f g es once twice both)
include h

theorem valueField_eq (hname : name ∉ ["type", "description"] ++
    "properties" :: "required" :: innerKeywords) :
    valueField twice name = valueField both name := by
  rw [h.second.valueField_eq hname, h.first.valueField_eq hname, h.whole.valueField_eq hname]

theorem items?_isSome (hname : name ∈ listKeywords) :
    (valueField twice name).items?.isSome = (valueField both name).items?.isSome := by
  rw [h.second.items?_eq hname, h.first.items?_eq hname, h.whole.items?_eq hname]
  simp only [Option.isSome_map]

theorem items : Composed f g (valueField twice "items") (valueField both "items") := by
  rw [h.second.items_eq, h.first.items_eq, h.whole.items_eq]
  exact composed_eachOrOne h.named.items

theorem isPresent_items : isPresent (some (valueField twice "items")) =
    isPresent (some (valueField both "items")) := by
  have hpresent : ∀ (k : View → View) v,
      isPresent (some (eachOrOne (pass (ofView k)) v)) = isPresent (some v) := fun k =>
    isPresent_eachOrOne (fun _ => pass_of_not_map (ofView k)) (isMap_pass_map (ofView k))
  rw [h.second.items_eq, h.first.items_eq, h.whole.items_eq]
  simp only [hpresent]

/-- The schemas of a combination are related. -/
theorem listField_forall₂ (hname : name ∈ listKeywords) :
    List.Forall₂ (Composed f g) (listField twice name) (listField both name) := by
  rw [h.second.listField_eq hname, h.first.listField_eq hname, h.whole.listField_eq hname,
    List.map_map, List.forall₂_map_left_iff, List.forall₂_map_right_iff, List.forall₂_same]
  exact fun v hv => composed_pass (h.named.combined hname hv)

/-- So are those of further properties. -/
theorem additional : SameAdditional (Composed f g) (valueField twice "additionalProperties")
    (valueField both "additionalProperties") := by
  rw [h.second.additional_eq, h.first.additional_eq, h.whole.additional_eq]
  exact ⟨by simp only [hasAdditional_pass], fun _ => composed_pass h.named.additional⟩

/-- **The properties are related**, and the same ones are optional. -/
theorem properties :
    List.Forall₂ (SameName (Composed f g)) (mapField twice "properties")
        (mapField both "properties") ∧
      ∀ e ∈ mapField twice "properties", e.1.text ∈ requiredNames (listField twice "required") ↔
        e.1.text ∈ requiredNames (listField both "required") := by
  have hes := h.named.properties_nodup
  have honce : ((mapField once "properties").map fun e => e.1.text).Nodup := by
    rw [h.first.properties_eq hes, List.map_map]
    exact hes
  have hproperty : ∀ e ∈ mapField es "properties", _ := fun e he =>
    composed_answered (f := f) (g := g) (requiredOf es) (requiredOf once) e.1
      (h.named.property he) rfl ((congrArg (decide <| e.1.text ∉ ·) (requiredOf_getD once)).trans
        (h.first.optional_eq hes he))
  rw [h.second.properties_eq honce, h.first.properties_eq hes, h.whole.properties_eq hes,
    List.map_map]
  constructor
  · rw [List.forall₂_map_left_iff, List.forall₂_map_right_iff, List.forall₂_same]
    exact fun e he => ⟨rfl, (hproperty e he).1⟩
  · intro e he
    obtain ⟨e, hmem, rfl⟩ := List.mem_map.1 he
    have hsecond := h.second.optional_eq honce
      (e := (e.1, answered (ofView f) (requiredOf es) (e.1, pass (ofView f) e.2)))
      (by rw [h.first.properties_eq hes]; exact List.mem_map_of_mem hmem)
    have hwhole := h.whole.optional_eq hes hmem
    exact not_iff_not.1 (decide_eq_decide.1
      (hsecond.trans ((hproperty e hmem).2.trans hwhole.symm)))

end Rebuilt

/-- **Two passes and one make the same of a schema**, up to what its type does not show. -/
theorem isSimulation_composed : IsSimulation (Composed f g) := by
  intro v w h
  cases h with
  | unmapped hv hw =>
    cases v with
    | map es => simp [Value.isMap] at hv
    | _ =>
      cases w with
      | map es => simp [Value.isMap] at hw
      | _ => exact ⟨rfl, rfl, rfl, .unknown _ _⟩
  | @mapped es once twice both h =>
    obtain ⟨hproperties, hrequired⟩ := h.properties
    refine MapAlike.node ⟨?_, fun _ => h.items?_isSome, fun _ => h.listField_forall₂,
      h.isPresent_items, h.items, h.additional, hproperties, hrequired⟩
    intro name hname
    simp only [plainKeywords, List.mem_cons, List.not_mem_nil, or_false] at hname
    rcases hname with rfl | rfl | rfl | rfl | rfl
    · exact h.valueField_eq (by decide)
    · exact h.valueField_eq (by decide)
    · exact h.type
    · exact h.description
    · exact h.valueField_eq (by decide)

end Composed

/-! ### Modules after two passes and after one -/

/-- **Passes compose.** For hooks that look at views only and answer each of them, two passes
give the module that one pass gives whose hook asks the second one about the answers of the
first. Both succeed. -/
theorem moduleText_comp (d : Dialect) (f g : View → View) (schemas : Entries)
    (h : ∀ e ∈ schemas, WellNamed e.2) :
    ∃ text : Text,
      (mapSchemas (total (ofView f) : Hook (Except Failure)) schemas >>=
          mapSchemas (total (ofView g))).map (moduleText d) = .ok text ∧
        (mapSchemas (total (ofView (g ∘ f)) : Hook (Except Failure)) schemas).map
          (moduleText d) = .ok text := by
  have hrelated : List.Forall₂ (SameName (Composed f g))
      ((schemas.map fun e => (e.1, pass (ofView f) e.2)).map fun e => (e.1, pass (ofView g) e.2))
      (schemas.map fun e => (e.1, pass (ofView (g ∘ f)) e.2)) := by
    rw [List.map_map, List.forall₂_map_left_iff, List.forall₂_map_right_iff, List.forall₂_same]
    exact fun e he => ⟨rfl, composed_pass (h e he)⟩
  refine ⟨moduleText d (schemas.map fun e => (e.1, pass (ofView (g ∘ f)) e.2)), ?_, ?_⟩
  · rw [mapSchemas_total, pure_bind, mapSchemas_total,
      ← isSimulation_composed.moduleText_eq hrelated]
    rfl
  · rw [mapSchemas_total]
    rfl

/-- A hook that takes away what a property says of itself, and negates whether it is optional. -/
def strip (view : View) : View := ⟨.null, !view.optional, .null⟩

/-- A hook that makes numbers of the optional properties without a type, and requires them. -/
def number : View → View
  | ⟨.null, true, _⟩ => ⟨.str "integer", false, .str "A number."⟩
  | view => view

/-- A schema with a required property, an optional one with a property of its own, a pointer and
an array of objects. -/
def houseSchemas : Entries :=
  [(.str "House", .map
    [(.str "properties", .map
        [(.str "street", .map [(.str "description", .str "A name."), (.str "type", .str "string")]),
          (.str "kitchen", .map
            [(.str "type", .str "object"),
              (.str "properties", .map [(.str "stove", .map [(.str "type", .str "boolean")])])]),
          (.str "owner", .map [(.str "$ref", .str "#/components/schemas/Owner")]),
          (.str "rooms", .map
            [(.str "items", .map
              [(.str "required", .list [.str "area"]),
                (.str "properties", .map [(.str "area", .map [])])])])]),
      (.str "required", .list [.str "rooms", .str "street"])])]

/-- The required properties become optional and then numbers, which are required again. -/
theorem moduleText_comp_houseSchemas :
    (∀ e ∈ houseSchemas, WellNamed e.2) ∧
      (mapSchemas (total (ofView strip) : Hook (Except Failure)) houseSchemas >>=
          mapSchemas (total (ofView number))).map (moduleText .openapi3) = .ok
        (moduleHead .openapi3 ++
          TypeExpr.membersText [⟨[], "House".toList, false, .block
            [⟨docComment "A number.".toList, "street".toList, false, .name "number".toList []⟩,
              ⟨[], "kitchen".toList, false, .block
                [⟨[], "stove".toList, false, .openObject⟩] none⟩,
              ⟨[], "owner".toList, true,
                .name "components".toList ["schemas".toList, "Owner".toList]⟩,
              ⟨docComment "A number.".toList, "rooms".toList, false,
                .name "number".toList []⟩] none⟩] ++
          moduleTail .openapi3) := by
  have hnamed : ∀ e ∈ houseSchemas, WellNamed e.2 := by decide +kernel
  obtain ⟨text, htwo, hone⟩ := moduleText_comp .openapi3 strip number houseSchemas hnamed
  refine ⟨hnamed, htwo.trans (hone.symm.trans ?_)⟩
  rfl

end ApiTypes.Hook
