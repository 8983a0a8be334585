import ApiTypes.Hook.Pass
import ApiTypes.Proofs.Schema.Keywords

/-!
# The pass of a hook without effects

A hook that neither fails nor does anything but answer is a function
(`ApiTypes.Hook.total`), and its pass is one as well, in whatever monad it is run
(`ApiTypes.Hook.mapSchemas_total`). The function is `ApiTypes.Hook.pass`, and this file says
of it what the pass does to each keyword of a schema:

* the schemas in other places than among the properties are replaced by what the pass makes
  of them (`ApiTypes.Hook.valueField_inner_list`, `ApiTypes.Hook.valueField_inner_items` and
  `ApiTypes.Hook.valueField_inner_additional`);
* the properties are, too, and then get the types and descriptions that the hook answers with
  (`ApiTypes.Hook.mapField_level_properties`);
* the list of required names is written anew, if it has been one or if there is something to
  write into it (`ApiTypes.Hook.requiredNames_level`);
* all other keywords keep their values (`ApiTypes.Hook.valueField_level`).
-/

namespace ApiTypes.Hook

open Schema

/-- The hook that answers with the value of a function. -/
def total {m : Type → Type} [Monad m] (g : Entries → View → View) : Hook m :=
  fun property view => pure (g property view)

/-! ### The pass as a function -/

/-- Some properties after the answers of a hook, and the required names after them. -/
def settle (g : Entries → View → View) (required : Option (List Text)) :
    Entries → Entries × Option (List Text)
  | [] => ([], required)
  | (key, property) :: rest =>
    match asked? property with
    | none => ((key, property) :: (settle g required rest).1, (settle g required rest).2)
    | some es =>
      let view := g es (viewOf required key.text es)
      let settled := settle g (require required key.text view.optional) rest
      ((key, .map (view.apply es)) :: settled.1, settled.2)

section Level

variable (F : Value → Value) (g : Entries → View → View)

/-- A list of schemas, rebuilt. -/
def listOf : Option Value → Option Value
  | some (.list items) => some (.list (items.map F))
  | _ => none

/-- A schema, rebuilt. -/
def mapOf : Option Value → Option Value
  | some (.map es) => some (F (.map es))
  | _ => none

/-- The items of an array, rebuilt. -/
def itemsOf : Option Value → Option Value
  | some (.list items) => some (.list (items.map F))
  | v => mapOf F v

/-- A schema whose schemas outside of its properties have been rebuilt. -/
def inner (es : Entries) : Entries :=
  replaceField "additionalProperties" (mapOf F (Entries.field? es "additionalProperties")) <|
    replaceField "anyOf" (listOf F (Entries.field? es "anyOf")) <|
      replaceField "oneOf" (listOf F (Entries.field? es "oneOf")) <|
        replaceField "allOf" (listOf F (Entries.field? es "allOf")) <|
          replaceField "items" (itemsOf F (Entries.field? es "items")) es

/-- The value of a list of required names. -/
def namesValue (names : List Text) : Value := .list (names.map fun t => .str (String.ofList t))

/-- **One level of the pass** of a hook without effects. -/
def level (es : Entries) : Entries :=
  match Entries.field? (inner F es) "properties" with
  | some (.map properties) =>
    let settled := settle g (requiredOf (inner F es)) (properties.map fun e => (e.1, F e.2))
    replaceField "required" (settled.2.map namesValue)
      (Entries.insert (.str "properties") (.map settled.1) (inner F es))
  | _ => inner F es

end Level

/-- The pass over a schema, down to a given number of levels. -/
def passAt (g : Entries → View → View) : Nat → Value → Value
  | n + 1, .map es => .map (level (passAt g n) g es)
  | _, v => v

/-- **The pass of a hook without effects** over a schema. -/
def pass (g : Entries → View → View) (schema : Value) : Value := passAt g schema.depth schema

/-! ### It is what the pass comes to -/

section Monad

variable {m : Type → Type} [Monad m] (F : Value → Value)
  (g : Entries → View → View)

@[simp]
theorem total_apply (property : Entries) (view : View) :
    (total g : Hook m) property view = pure (g property view) := rfl

variable [LawfulMonad m]

theorem mapProperties_total (required : Option (List Text)) (properties : Entries) :
    mapProperties (total g : Hook m) required properties = pure (settle g required properties) := by
  induction properties generalizing required with
  | nil => rfl
  | cons e rest ih =>
    obtain ⟨key, property⟩ := e
    rw [mapProperties, settle]
    cases h : asked? property with
    | none => rw [ih, pure_bind]
    | some es => simp only [total_apply, pure_bind, ih]

theorem rebuildList_total (o : Option Value) :
    rebuildList (fun v => (pure (F v) : m Value)) o = pure (listOf F o) := by
  cases o with
  | none => rfl
  | some v =>
    cases v with
    | list items => rw [rebuildList, listOf, List.mapM_pure, pure_bind]
    | _ => rfl

theorem rebuildMap_total (o : Option Value) :
    rebuildMap (fun v => (pure (F v) : m Value)) o = pure (mapOf F o) := by
  cases o with
  | none => rfl
  | some v =>
    cases v with
    | map es => rw [rebuildMap, mapOf, pure_bind]
    | _ => rfl

theorem rebuildItems_total (o : Option Value) :
    rebuildItems (fun v => (pure (F v) : m Value)) o = pure (itemsOf F o) := by
  cases o with
  | none => rfl
  | some v =>
    cases v with
    | list items => rw [rebuildItems, rebuildList_total, itemsOf, listOf]
    -- what is no list is rebuilt as a schema is
    | _ =>
      rw [rebuildItems, rebuildMap_total, itemsOf]
      all_goals simp

theorem rebuildLevel_total (es : Entries) :
    rebuildLevel (fun v => (pure (F v) : m Value)) (total g) es = pure (level F g es) := by
  rw [rebuildLevel, level]
  simp only [rebuildItems_total, rebuildList_total, rebuildMap_total, pure_bind]
  rw [← inner]
  cases hp : Entries.field? (inner F es) "properties" with
  | none => rfl
  | some v =>
    cases v with
    | map properties =>
      simp only [List.mapM_pure, pure_bind, mapProperties_total]
      cases hr : (settle g (requiredOf (inner F es)) (properties.map fun e => (e.1, F e.2))).2 <;>
        rfl
    | _ => rfl

theorem mapSchemaAt_total (n : Nat) (schema : Value) :
    mapSchemaAt (total g : Hook m) n schema = pure (passAt g n schema) := by
  induction n generalizing schema with
  | zero => cases schema <;> rfl
  | succ n ih =>
    have hf : mapSchemaAt (total g : Hook m) n = fun v => pure (passAt g n v) := funext ih
    cases schema with
    | map es => rw [mapSchemaAt, hf, rebuildLevel_total, pure_bind, passAt]
    | _ => rfl

/-- **The pass of a hook without effects has none**, in whatever monad it is run. -/
theorem mapSchemas_total (schemas : Entries) :
    mapSchemas (total g : Hook m) schemas = pure (schemas.map fun e => (e.1, pass g e.2)) := by
  have hpass : ∀ schema, mapSchema (total g : Hook m) schema = pure (pass g schema) :=
    fun schema => mapSchemaAt_total g schema.depth schema
  rw [mapSchemas]
  simp only [hpass, pure_bind, List.mapM_pure]

end Monad

/-! ### Writing keywords -/

section Fields

variable {name : String} {es : Entries}

theorem field?_replaceField_of_ne {s : String} (h : s ≠ name) (o : Option Value) (es : Entries) :
    Entries.field? (replaceField name o es) s = Entries.field? es s := by
  cases o with
  | none => rfl
  | some v => rw [replaceField, Entries.field?_insert, if_neg h]

theorem valueField_replaceField (s : String) (o : Option Value) (es : Entries) :
    valueField (replaceField name o es) s =
      if s = name then o.getD (valueField es name) else valueField es s := by
  cases o with
  | none =>
    split
    · next h => rw [h]; rfl
    · rfl
  | some v => exact valueField_insert s v es

/-- Writing a null value is the same as removing the keyword: it counts as null then. -/
theorem valueField_setField (s : String) (v : Value) (es : Entries) :
    valueField (setField name v es) s = if s = name then v else valueField es s := by
  cases v with
  | null =>
    rw [setField, valueField, Entries.field?_erase]
    split <;> rfl
  | _ => exact valueField_insert s _ es

/-- **A view changes the type and the description**, and nothing else. -/
theorem valueField_apply (view : View) (es : Entries) (s : String) :
    valueField (view.apply es) s =
      if s = "description" then view.description
      else if s = "type" then view.type else valueField es s := by
  rw [View.apply, valueField_setField, valueField_setField]

theorem valueField_apply_type (view : View) (es : Entries) :
    valueField (view.apply es) "type" = view.type := by
  rw [valueField_apply, if_neg (by decide), if_pos rfl]

theorem valueField_apply_description (view : View) (es : Entries) :
    valueField (view.apply es) "description" = view.description := by
  rw [valueField_apply, if_pos rfl]

end Fields

/-! ### What becomes of the keywords -/

section Keywords

variable {F : Value → Value} {g : Entries → View → View}

/-- Each item of a list of schemas, rebuilt. -/
def eachOf (F : Value → Value) : Value → Value
  | .list items => .list (items.map F)
  | v => v

/-- The items of an array, rebuilt: each of them, if there are several. -/
def eachOrOne (F : Value → Value) : Value → Value
  | .list items => .list (items.map F)
  | v => F v

theorem getD_listOf (es : Entries) (name : String) :
    (listOf F (Entries.field? es name)).getD (valueField es name) =
      eachOf F (valueField es name) := by
  unfold valueField
  cases Entries.field? es name with
  | none => rfl
  | some v => cases v <;> rfl

/-- The keywords whose schemas are rebuilt before the properties. -/
def innerKeywords : List String := ["additionalProperties", "anyOf", "oneOf", "allOf", "items"]

theorem field?_inner_of_not_mem {name : String} (h : name ∉ innerKeywords) (es : Entries) :
    Entries.field? (inner F es) name = Entries.field? es name := by
  simp only [innerKeywords, List.mem_cons, List.not_mem_nil, not_or] at h
  rw [inner, field?_replaceField_of_ne h.1, field?_replaceField_of_ne h.2.1,
    field?_replaceField_of_ne h.2.2.1, field?_replaceField_of_ne h.2.2.2.1,
    field?_replaceField_of_ne h.2.2.2.2.1]

theorem valueField_inner_of_not_mem {name : String} (h : name ∉ innerKeywords) (es : Entries) :
    valueField (inner F es) name = valueField es name := by
  rw [valueField, field?_inner_of_not_mem h, ← valueField]

/-- The schemas of a combination are rebuilt. -/
theorem valueField_inner_list {name : String} (h : name ∈ listKeywords)
    (es : Entries) : valueField (inner F es) name = eachOf F (valueField es name) := by
  simp only [listKeywords, List.mem_cons, List.not_mem_nil, or_false] at h
  rcases h with rfl | rfl | rfl <;>
    simp [inner, valueField_replaceField, getD_listOf]

variable (hF : ∀ v : Value, v.isMap = false → F v = v)
include hF

theorem getD_mapOf (es : Entries) (name : String) :
    (mapOf F (Entries.field? es name)).getD (valueField es name) = F (valueField es name) := by
  unfold valueField
  cases Entries.field? es name with
  | none => exact (hF .null rfl).symm
  | some v =>
    cases v with
    | map es => rfl
    | _ => exact (hF _ rfl).symm

theorem getD_itemsOf (es : Entries) (name : String) :
    (itemsOf F (Entries.field? es name)).getD (valueField es name) =
      eachOrOne F (valueField es name) := by
  unfold valueField
  cases Entries.field? es name with
  | none => exact (hF .null rfl).symm
  | some v =>
    cases v with
    | map es => rfl
    | list items => rfl
    | _ => exact (hF _ rfl).symm

/-- The schema of further properties is rebuilt. -/
theorem valueField_inner_additional (es : Entries) :
    valueField (inner F es) "additionalProperties" = F (valueField es "additionalProperties") := by
  simp [inner, valueField_replaceField, getD_mapOf hF]

/-- The schema of the items is rebuilt, or each of them is. -/
theorem valueField_inner_items (es : Entries) :
    valueField (inner F es) "items" = eachOrOne F (valueField es "items") := by
  rw [← getD_itemsOf hF]
  simp [inner, valueField_replaceField]

end Keywords

section Object

variable {F : Value → Value} {g : Entries → View → View}

theorem requiredOf_inner (es : Entries) : requiredOf (inner F es) = requiredOf es := by
  rw [requiredOf, listField?, field?_inner_of_not_mem (by decide)]
  rfl

/-- A list of required names is never given up. -/
theorem settle_snd_ne_none (names : List Text) (properties : Entries) :
    (settle g (some names) properties).2 ≠ none := by
  induction properties generalizing names with
  | nil => simp [settle]
  | cons e rest ih =>
    obtain ⟨key, property⟩ := e
    rw [settle]
    split
    · exact ih names
    · next es _ =>
      -- whatever the answer, the list is one of names again
      cases h : (g es (viewOf (some names) key.text es)).optional with
      | true => simpa [h, require] using ih _
      | false =>
        by_cases hmem : key.text ∈ names
        · simpa [h, require, hmem] using ih _
        · simpa [h, require, hmem] using ih _

theorem requiredNames_namesValue (names : List Text) :
    requiredNames ((namesValue names).items?.getD []) = names := by
  have hname : ∀ t : Text, requiredName? (.str (String.ofList t)) = some t := fun t =>
    congrArg some (String.toList_ofList)
  simp only [namesValue, Value.items?, Option.getD_some, requiredNames]
  induction names with
  | nil => rfl
  | cons t names ih => rw [List.map_cons, List.filterMap_cons_some (hname t), ih]

/-- The properties of an object, each of them rebuilt. -/
def rebuiltProperties (F : Value → Value) (es : Entries) : Entries :=
  (mapField es "properties").map fun e => (e.1, F e.2)

/-- A schema with properties: they and the required names are written behind the rest. -/
theorem level_of_properties {es properties : Entries}
    (h : Entries.field? es "properties" = some (.map properties)) :
    level F g es =
      replaceField "required"
        ((settle g (requiredOf es) (rebuiltProperties F es)).2.map namesValue)
        (Entries.insert (.str "properties")
          (.map (settle g (requiredOf es) (rebuiltProperties F es)).1) (inner F es)) := by
  have hprops : rebuiltProperties F es = properties.map fun e => (e.1, F e.2) := by
    rw [rebuiltProperties, mapField, h]
    rfl
  rw [level, field?_inner_of_not_mem (by decide), h, requiredOf_inner, hprops]

/-- A schema without properties. -/
theorem level_of_no_properties {es : Entries}
    (h : ∀ properties, Entries.field? es "properties" ≠ some (.map properties)) :
    level F g es = inner F es ∧ rebuiltProperties F es = [] := by
  constructor
  · rw [level, field?_inner_of_not_mem (by decide)]
    split
    · next properties hp => exact absurd hp (h properties)
    · rfl
  · rw [rebuiltProperties, mapField]
    cases hp : Entries.field? es "properties" with
    | none => rfl
    | some v =>
      cases v with
      | map properties => exact absurd hp (h properties)
      | _ => rfl

/-- Other keywords than those of the properties are left as they are. -/
theorem valueField_level_of_ne {name : String} (hp : name ≠ "properties") (hr : name ≠ "required")
    (es : Entries) : valueField (level F g es) name = valueField (inner F es) name := by
  rw [level]
  split
  · rw [valueField_replaceField, if_neg hr, valueField_insert, if_neg hp]
  · rfl

/-- **The properties** are rebuilt and get the types and descriptions of the hook. -/
theorem mapField_level_properties (es : Entries) :
    mapField (level F g es) "properties" =
      (settle g (requiredOf es) (rebuiltProperties F es)).1 := by
  by_cases h : ∃ properties, Entries.field? es "properties" = some (.map properties)
  · obtain ⟨properties, h⟩ := h
    rw [level_of_properties h, mapField_eq, valueField_replaceField, if_neg (by decide),
      valueField_insert, if_pos rfl]
    rfl
  · obtain ⟨hlevel, hnil⟩ := level_of_no_properties (F := F) (g := g) (not_exists.1 h)
    rw [hlevel, hnil, mapField, field?_inner_of_not_mem (by decide), ← mapField, settle]
    simpa [rebuiltProperties] using hnil

/-- The names that the pass starts with are those that a node reads. -/
theorem requiredOf_getD (es : Entries) :
    (requiredOf es).getD [] = requiredNames (listField es "required") := by
  rw [requiredOf, listField]
  cases listField? es "required" <;> rfl

/-- **The required names** are those that the hook leaves. -/
theorem requiredNames_level (es : Entries) :
    requiredNames (listField (level F g es) "required") =
      (settle g (requiredOf es) (rebuiltProperties F es)).2.getD [] := by
  by_cases h : ∃ properties, Entries.field? es "properties" = some (.map properties)
  · obtain ⟨properties, h⟩ := h
    rw [level_of_properties h, listField_eq, valueField_replaceField, if_pos rfl]
    cases hnames : (settle g (requiredOf es) (rebuiltProperties F es)).2 with
    | some names => exact requiredNames_namesValue names
    | none =>
      -- no names are written, so there was no list of names before
      have hnone : requiredOf es = none := by
        cases hr : requiredOf es with
        | none => rfl
        | some names => exact absurd hnames (hr ▸ settle_snd_ne_none names _)
      rw [Option.map_none, Option.getD_none, valueField_insert, if_neg (by decide),
        valueField_inner_of_not_mem (by decide), ← listField_eq, ← requiredOf_getD, hnone]
  · obtain ⟨hlevel, hnil⟩ := level_of_no_properties (F := F) (g := g) (not_exists.1 h)
    rw [hlevel, hnil, listField_eq, valueField_inner_of_not_mem (by decide), ← listField_eq, settle,
      requiredOf_getD]

end Object

/-! ### The node after the pass -/

section Node

variable {F : Value → Value} {g : Entries → View → View}

/-- Keywords that are no places of schemas keep their values. -/
theorem valueField_level {name : String}
    (h : name ∉ "properties" :: "required" :: innerKeywords) (es : Entries) :
    valueField (level F g es) name = valueField es name := by
  simp only [List.mem_cons, not_or] at h
  rw [valueField_level_of_ne h.1 h.2.1, valueField_inner_of_not_mem h.2.2]

theorem items?_eachOf (v : Value) : (eachOf F v).items? = v.items?.map (List.map F) := by
  cases v <;> rfl

theorem items?_level {name : String} (h : name ∈ listKeywords) (es : Entries) :
    (valueField (level F g es) name).items? = (valueField es name).items?.map (List.map F) := by
  have hp : name ≠ "properties" := by
    rintro rfl
    simp [listKeywords] at h
  have hr : name ≠ "required" := by
    rintro rfl
    simp [listKeywords] at h
  rw [valueField_level_of_ne hp hr, valueField_inner_list h, items?_eachOf]

/-- The schemas of a combination are those of before, each of them rebuilt. -/
theorem listField_level {name : String} (h : name ∈ listKeywords) (es : Entries) :
    listField (level F g es) name = (listField es name).map F := by
  rw [listField_eq, items?_level h, listField_eq]
  cases (valueField es name).items? <;> rfl

variable (hF : ∀ v : Value, v.isMap = false → F v = v)
include hF

theorem valueField_level_items (es : Entries) :
    valueField (level F g es) "items" = eachOrOne F (valueField es "items") := by
  rw [valueField_level_of_ne (by decide) (by decide), valueField_inner_items hF]

theorem valueField_level_additional (es : Entries) :
    valueField (level F g es) "additionalProperties" =
      F (valueField es "additionalProperties") := by
  rw [valueField_level_of_ne (by decide) (by decide), valueField_inner_additional hF]

/-- Items that are there stay there: mappings and lists count as items whatever is in them. -/
theorem isPresent_eachOrOne (hmap : ∀ es, (F (.map es)).isMap) (v : Value) :
    isPresent (some (eachOrOne F v)) = isPresent (some v) := by
  cases v with
  | map fs => exact isPresent_of_isMap (hmap fs)
  | list items => rfl
  | _ => exact congrArg (isPresent ∘ some) (hF _ rfl)

/-- **The category stays**, when mappings stay mappings. -/
theorem classify_level (hmap : ∀ es, (F (.map es)).isMap) (es : Entries) :
    classify (.map (level F g es)) = classify (.map es) := by
  have hcombination : ∀ name ∈ listKeywords,
      (valueField (level F g es) name).items?.isSome = (valueField es name).items?.isSome := by
    intro name hname
    rw [items?_level hname, Option.isSome_map]
  apply classify_congr
  · rw [valueField_level (by decide)]
  · rw [valueField_level (by decide)]
  · rw [valueField_level (by decide)]
  · exact hcombination "anyOf" (by decide)
  · exact hcombination "oneOf" (by decide)
  · rw [valueField_level_items hF, isPresent_eachOrOne hF hmap]

/-- **The node after the pass** has the category and the description of the schema, and allows
null when the schema does. -/
theorem ofValue_level (hmap : ∀ es, (F (.map es)).isMap) (es : Entries) :
    Node.ofValue (.map (level F g es)) =
      { Node.ofValue (.map es) with
        shape := Shape.ofEntries (level F g es) (classify (.map es)) } := by
  simp only [Node.ofValue, classify_level hF hmap, description?_eq, isNullable_eq]
  rw [valueField_level (by decide), valueField_level (by decide)]

end Node

/-! ### The pass is a fixed point -/

section FixedPoint

variable {F G : Value → Value} {g : Entries → View → View}

theorem listOf_congr {o : Option Value}
    (h : ∀ v, o = some v → ∀ w : Value, w.depth < v.depth → F w = G w) :
    listOf F o = listOf G o := by
  cases o with
  | none => rfl
  | some v =>
    cases v with
    | list items =>
      have hitems : items.map F = items.map G :=
        List.map_congr_left fun w hw => h _ rfl w (Value.depth_of_mem_list hw)
      rw [listOf, listOf, hitems]
    | _ => rfl

theorem mapOf_congr {o : Option Value} (h : ∀ v, o = some v → F v = G v) :
    mapOf F o = mapOf G o := by
  cases o with
  | none => rfl
  | some v =>
    cases v with
    | map es => rw [mapOf, mapOf, h _ rfl]
    | _ => rfl

/-- One level depends only on what becomes of the schemas below it. -/
theorem level_congr {es : Entries} (h : ∀ v : Value, v.depth < (Value.map es).depth → F v = G v) :
    level F g es = level G g es := by
  have hlist : ∀ name, listOf F (Entries.field? es name) = listOf G (Entries.field? es name) :=
    fun name => listOf_congr fun v hv w hw => h w (by
      have := Entries.depth_of_get? hv
      omega)
  have hmap : ∀ name, mapOf F (Entries.field? es name) = mapOf G (Entries.field? es name) :=
    fun name => mapOf_congr fun v hv => h v (Entries.depth_of_get? hv)
  have hitems : itemsOf F (Entries.field? es "items") = itemsOf G (Entries.field? es "items") := by
    have hl := hlist "items"
    have hm := hmap "items"
    cases hi : Entries.field? es "items" with
    | none => rfl
    | some v =>
      rw [hi] at hl hm
      cases v with
      | list items => exact hl
      | map fs => exact hm
      | _ => rfl
  have hinner : inner F es = inner G es := by
    rw [inner, inner, hlist, hlist, hlist, hmap, hitems]
  have hprops : rebuiltProperties F es = rebuiltProperties G es :=
    List.map_congr_left fun e he => by rw [h e.2 (depth_of_mem_mapField he)]
  by_cases hp : ∃ properties, Entries.field? es "properties" = some (.map properties)
  · obtain ⟨properties, hp⟩ := hp
    rw [level_of_properties hp, level_of_properties hp, hinner, hprops]
  · rw [(level_of_no_properties (not_exists.1 hp)).1, (level_of_no_properties (not_exists.1 hp)).1,
      hinner]

theorem passAt_eq_of_depth_le {m n : Nat} {schema : Value} (hm : schema.depth ≤ m)
    (hn : schema.depth ≤ n) : passAt g m schema = passAt g n schema := by
  induction m generalizing n schema with
  | zero => have := schema.depth_pos; omega
  | succ m ih =>
    cases n with
    | zero => have := schema.depth_pos; omega
    | succ n =>
      cases schema with
      | map es =>
        have hlevel : level (passAt g m) g es = level (passAt g n) g es :=
          level_congr fun v hv => ih (by omega) (by omega)
        rw [passAt, passAt, hlevel]
      | _ => rfl

/-- **The pass over a mapping is one level of it**, with the pass itself below. -/
theorem pass_map (g : Entries → View → View) (es : Entries) :
    pass g (.map es) = .map (level (pass g) g es) := by
  obtain ⟨n, hn⟩ := Nat.exists_eq_succ_of_ne_zero (Nat.ne_of_gt (Value.map es).depth_pos)
  have hlevel : level (passAt g n) g es = level (pass g) g es :=
    level_congr fun v hv => passAt_eq_of_depth_le (by omega) (Nat.le_refl _)
  rw [pass, hn, passAt, hlevel]

/-- What is no mapping is left as it is. -/
theorem pass_of_not_map (g : Entries → View → View) {v : Value} (h : v.isMap = false) :
    pass g v = v := by
  cases v with
  | map es => simp [Value.isMap] at h
  | _ => rfl

theorem isMap_pass_map (g : Entries → View → View) (es : Entries) :
    (pass g (.map es)).isMap := by
  rw [pass_map]
  rfl

theorem hasAdditional_pass (g : Entries → View → View) (additional : Value) :
    hasAdditional (pass g additional) = hasAdditional additional := by
  cases additional with
  | map es => rw [pass_map]; rfl
  | _ => rfl

/-- What a node says by itself is what it said before the pass. -/
theorem ofValue_pass (g : Entries → View → View) (v : Value) :
    (Node.ofValue (pass g v)).description = (Node.ofValue v).description ∧
      (Node.ofValue (pass g v)).nullable = (Node.ofValue v).nullable := by
  cases v with
  | map es =>
    rw [pass_map, ofValue_level (fun _ => pass_of_not_map g) (isMap_pass_map g)]
    exact ⟨rfl, rfl⟩
  | _ => rw [pass_of_not_map g rfl]; exact ⟨rfl, rfl⟩

theorem asked?_map (es : Entries) :
    asked? (.map es) = if (valueField es "$ref").truthy then none else some es := by
  rw [asked?, isTruthy_field?]

/-- Only mappings are asked about. -/
theorem eq_map_of_asked? {v : Value} {es : Entries} (h : asked? v = some es) : v = .map es := by
  cases v with
  | map fs =>
    rw [asked?_map] at h
    split at h
    · simp at h
    · rw [Option.some.inj h]
  | _ => simp [asked?] at h

/-- The pass does not change which properties a hook is asked about. -/
theorem isSome_asked?_pass (g : Entries → View → View) (v : Value) :
    (asked? (pass g v)).isSome = (asked? v).isSome := by
  cases v with
  | map es =>
    rw [pass_map, asked?_map, asked?_map, valueField_level (by decide)]
    split <;> rfl
  | _ => rfl

end FixedPoint

end ApiTypes.Hook
