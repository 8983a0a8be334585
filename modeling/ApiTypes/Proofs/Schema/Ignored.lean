import ApiTypes.Proofs.Schema.Alike
import ApiTypes.Proofs.Value.Entries

/-!
# What a schema says in vain

Of all that a schema can say, its type depends on little: on the keywords that its category uses
(`ApiTypes.Schema.usedKeywords`), its description and whether it allows null, and so on in the
schemas that these keywords hold. `ApiTypes.Schema.prune` drops everything else, and the type
stays (`ApiTypes.Schema.typeText_ignores`).

**Dropping a keyword could move a schema to another category**, since the category is found by
trying one keyword after the other. It does not: a keyword that is not used has been passed over
because it says nothing, and a missing one says nothing either
(`ApiTypes.Schema.classify_prune`).

Of what is used some does not count: the order of the keywords, and in a list of required names
the order, the repetitions and all that names no declared property
(`ApiTypes.Schema.SameRequired`). The changes that do not count, made at whatever depth and one
after the other, are a relation between schemas (`ApiTypes.Schema.SameUsed`). Along it nothing that
is read of a schema changes (`ApiTypes.Schema.Indistinct`), which is more than that the type
stays: the same holds of the comment of a property and of its being null.
-/

namespace ApiTypes.Schema

open TypeScript

variable {d : Dialect}

/-! ### Only what is used -/

mutual

/-- **A schema without all that is not used**, down to any depth. -/
def prune : Value → Value
  | .map es => .map (pruneEntries (keptKeywords (classify (.map es))) es)
  | v => v
termination_by structural v => v

/-- The entries of some keywords, with what is used of them. -/
def pruneEntries (kept : List String) : List (Value × Value) → List (Value × Value)
  | [] => []
  | (key, v) :: es =>
    if isKeyword kept key then (key, pruneValue key v) :: pruneEntries kept es
    else pruneEntries kept es
termination_by structural es => es

/-- The value of a keyword, with what is used of the schemas in it. -/
def pruneValue (key : Value) : Value → Value
  | .map es =>
    if isKeyword ["items", "additionalProperties"] key then
      .map (pruneEntries (keptKeywords (classify (.map es))) es)
    else if isKeyword ["properties"] key then .map (pruneProperties es)
    else .map es
  | .list items =>
    if isKeyword listKeywords key then .list (pruneItems items) else .list items
  | v => v
termination_by structural v => v

/-- Some properties, with what is used of them. -/
def pruneProperties : List (Value × Value) → List (Value × Value)
  | [] => []
  | (key, v) :: es => (key, prune v) :: pruneProperties es
termination_by structural es => es

/-- Some schemas, with what is used of them. -/
def pruneItems : List Value → List Value
  | [] => []
  | v :: vs => prune v :: pruneItems vs
termination_by structural vs => vs

end

theorem pruneItems_eq_map (vs : List Value) : pruneItems vs = vs.map prune := by
  induction vs with
  | nil => rfl
  | cons v vs ih => rw [pruneItems, ih, List.map_cons]

theorem pruneProperties_eq_map (es : Entries) :
    pruneProperties es = es.map fun e => (e.1, prune e.2) := by
  induction es with
  | nil => rfl
  | cons e es ih => rw [pruneProperties, ih, List.map_cons]

/-! ### What becomes of the keywords -/

section Keywords

theorem isKeyword_str (names : List String) (name : String) :
    isKeyword names (.str name) = decide (name ∈ names) := by
  simp [isKeyword, Value.str?]

/-- What is kept is found again, with what is used of it, and everything else is missing. -/
theorem field?_pruneEntries (kept : List String) (name : String) (es : Entries) :
    Entries.field? (pruneEntries kept es) name =
      if name ∈ kept then (Entries.field? es name).map (pruneValue (.str name)) else none := by
  induction es with
  | nil => exact (ite_self _).symm
  | cons e es ih =>
    obtain ⟨key, v⟩ := e
    rw [pruneEntries, Entries.field?_cons]
    by_cases hkey : key.sameKey (.str name)
    · obtain rfl := Value.sameKey_str_right.1 hkey
      by_cases hname : name ∈ kept
      · simp [isKeyword_str, hname, Entries.field?_cons]
      · simpa [isKeyword_str, hname] using ih
    · rw [if_neg hkey, ← ih]
      split
      · rw [Entries.field?_cons, if_neg hkey]
      · rfl

theorem valueField_pruneEntries (kept : List String) (name : String) (es : Entries) :
    valueField (pruneEntries kept es) name =
      if name ∈ kept then pruneValue (.str name) (valueField es name) else .null := by
  rw [valueField, field?_pruneEntries, valueField]
  cases Entries.field? es name <;> split <;> rfl

/-- Keywords that are no places of schemas keep their values. -/
theorem pruneValue_of_not_mem {name : String}
    (h : name ∉ "items" :: "additionalProperties" :: "properties" :: listKeywords) (v : Value) :
    pruneValue (.str name) v = v := by
  simp only [List.mem_cons, not_or] at h
  cases v with
  | map es => simp [pruneValue, isKeyword_str, h]
  | list items => simp [pruneValue, isKeyword_str, h]
  | _ => rfl

/-- The schema of a keyword is pruned. -/
theorem pruneValue_schema {name : String} (h : name ∈ ["items", "additionalProperties"])
    (v : Value) : pruneValue (.str name) v = prune v := by
  have hlist : name ∉ listKeywords := by
    rintro hlist
    simp only [List.mem_cons, List.not_mem_nil, or_false] at h
    rcases h with rfl | rfl <;> simp [listKeywords] at hlist
  cases v with
  | map es => rw [pruneValue, isKeyword_str, if_pos (by simpa using h), prune]
  | list items =>
    rw [pruneValue, isKeyword_str, if_neg (by simpa using hlist)]
    rfl
  | _ => rfl

/-- So is each schema of a list of schemas. -/
theorem items?_pruneValue {name : String} (h : name ∈ listKeywords) (v : Value) :
    (pruneValue (.str name) v).items? = v.items?.map (List.map prune) := by
  cases v with
  | map es =>
    rw [pruneValue]
    split
    · rfl
    · split <;> rfl
  | list items =>
    rw [pruneValue, isKeyword_str, if_pos (by simpa using h), pruneItems_eq_map]
    rfl
  | _ => rfl

/-- So are the schemas of properties. -/
theorem entries?_pruneValue (v : Value) :
    (pruneValue (.str "properties") v).entries? =
      v.entries?.map (List.map fun e => (e.1, prune e.2)) := by
  cases v with
  | map es => simp [pruneValue, isKeyword_str, Value.entries?, pruneProperties_eq_map]
  | list items => simp [pruneValue, isKeyword_str, Value.entries?, listKeywords]
  | _ => rfl

theorem isPresent_prune (v : Value) : isPresent (some (prune v)) = isPresent (some v) := by
  cases v <;> rfl

theorem hasAdditional_prune (v : Value) : hasAdditional (prune v) = hasAdditional v := by
  cases v <;> rfl

end Keywords

/-! ### The category -/

section Category

variable (kept : List String) (es : Entries)

theorem truthy_pruneEntries : (valueField (pruneEntries kept es) "$ref").truthy =
    (decide ("$ref" ∈ kept) && (valueField es "$ref").truthy) := by
  rw [valueField_pruneEntries, pruneValue_of_not_mem (by decide)]
  by_cases h : "$ref" ∈ kept <;> simp [h, Value.truthy]

theorem str?_pruneEntries : (valueField (pruneEntries kept es) "type").str? =
    if "type" ∈ kept then (valueField es "type").str? else none := by
  rw [valueField_pruneEntries, pruneValue_of_not_mem (by decide)]
  split <;> rfl

theorem isSome_pruneEntries {name : String} (hname : name ∈ "enum" :: listKeywords) :
    (valueField (pruneEntries kept es) name).items?.isSome =
      (decide (name ∈ kept) && (valueField es name).items?.isSome) := by
  rw [valueField_pruneEntries]
  by_cases h : name ∈ kept
  · rw [if_pos h, decide_eq_true h, Bool.true_and]
    rcases List.mem_cons.1 hname with rfl | hname
    · rw [pruneValue_of_not_mem (by decide)]
    · rw [items?_pruneValue hname, Option.isSome_map]
  · simp [h, Value.items?]

theorem isPresent_pruneEntries : isPresent (some (valueField (pruneEntries kept es) "items")) =
    (decide ("items" ∈ kept) && isPresent (some (valueField es "items"))) := by
  rw [valueField_pruneEntries, pruneValue_schema (by decide)]
  by_cases h : "items" ∈ kept
  · rw [if_pos h, isPresent_prune, decide_eq_true h, Bool.true_and]
  · simp [h, isPresent]

/-- The category of what is kept of a mapping. -/
theorem classify_pruneEntries :
    classify (.map (pruneEntries kept es)) =
      if "$ref" ∈ kept ∧ (valueField es "$ref").truthy then .ref
      else if "enum" ∈ kept ∧ (valueField es "enum").items?.isSome then .enum
      else ((if "type" ∈ kept then (valueField es "type").str? else none).bind primitive?).getD
        (if "anyOf" ∈ kept ∧ (valueField es "anyOf").items?.isSome then .anyOf
          else if "oneOf" ∈ kept ∧ (valueField es "oneOf").items?.isSome then .oneOf
          else if (if "type" ∈ kept then (valueField es "type").str? else none) = some "array" ∨
            ("items" ∈ kept ∧ isPresent (some (valueField es "items"))) then .array
          else .object) := by
  rw [classify_map, truthy_pruneEntries, isSome_pruneEntries kept es (by decide),
    str?_pruneEntries, isSome_pruneEntries kept es (by decide),
    isSome_pruneEntries kept es (by decide), isPresent_pruneEntries]
  simp only [Bool.and_eq_true, decide_eq_true_eq]

/-- **The category stays**: what decides about it is kept, and what is dropped says nothing. -/
theorem classify_prune (schema : Value) : classify (prune schema) = classify schema := by
  cases schema with
  | map es =>
    rw [prune, classify_pruneEntries]
    by_cases href : (valueField es "$ref").truthy
    · simp [classify_map, href, keptKeywords, usedKeywords]
    by_cases henum : (valueField es "enum").items?.isSome
    · simp [classify_map, href, henum, keptKeywords, usedKeywords]
    cases htype : (valueField es "type").str?.bind primitive? with
    | some c =>
      obtain ⟨type, -, hc⟩ := Option.bind_eq_some_iff.1 htype
      rcases primitive?_eq_some hc with rfl | rfl | rfl <;>
        simp [classify_map, href, henum, htype, keptKeywords, usedKeywords]
    | none =>
      by_cases hany : (valueField es "anyOf").items?.isSome
      · simp [classify_map, href, henum, htype, hany, keptKeywords, usedKeywords]
      by_cases hone : (valueField es "oneOf").items?.isSome
      · simp [classify_map, href, henum, htype, hany, hone, keptKeywords, usedKeywords]
      by_cases harray : (valueField es "type").str? = some "array" ∨
          isPresent (some (valueField es "items"))
      · simp [classify_map, href, henum, htype, hany, hone, harray, keptKeywords, usedKeywords]
      · simp [classify_map, href, henum, htype, hany, hone, harray, keptKeywords, usedKeywords]
  | _ => rfl

end Category

/-! ### The type -/

section Kept

variable {kept : List String} (es : Entries)

theorem listField_pruneEntries {name : String} (h : name ∈ kept) (hname : name ∈ listKeywords) :
    listField (pruneEntries kept es) name = (listField es name).map prune := by
  rw [listField_eq, valueField_pruneEntries, if_pos h, items?_pruneValue hname, listField_eq]
  cases (valueField es name).items? <;> rfl

theorem mapField_pruneEntries (h : "properties" ∈ kept) :
    mapField (pruneEntries kept es) "properties" =
      (mapField es "properties").map fun e => (e.1, prune e.2) := by
  rw [mapField_eq, valueField_pruneEntries, if_pos h, entries?_pruneValue, mapField_eq]
  cases (valueField es "properties").entries? <;> rfl

theorem valueField_pruneEntries_schema {name : String} (h : name ∈ kept)
    (hname : name ∈ ["items", "additionalProperties"]) :
    valueField (pruneEntries kept es) name = prune (valueField es name) := by
  rw [valueField_pruneEntries, if_pos h, pruneValue_schema hname]

theorem valueField_pruneEntries_plain {name : String} (h : name ∈ kept)
    (hname : name ∉ "items" :: "additionalProperties" :: "properties" :: listKeywords) :
    valueField (pruneEntries kept es) name = valueField es name := by
  rw [valueField_pruneEntries, if_pos h, pruneValue_of_not_mem hname]

end Kept

theorem forall₂_prune (vs : List Value) :
    List.Forall₂ (fun v w => v = prune w) (vs.map prune) vs := by
  rw [List.forall₂_map_left_iff, List.forall₂_same]
  exact fun v _ => rfl

/-- **What is kept stays**, up to the schemas in it, which are pruned. -/
theorem alikeOn_pruneEntries (kept : List String) (es : Entries) :
    AlikeOn (fun v w => v = prune w) kept (pruneEntries kept es) es where
  plain name hname hkept := by
    refine valueField_pruneEntries_plain es hkept ?_
    simp only [plainKeywords, List.mem_cons, List.not_mem_nil, or_false] at hname
    rcases hname with rfl | rfl | rfl | rfl | rfl <;> decide
  combined name hname hkept := by
    rw [listField_pruneEntries es hkept hname]
    exact forall₂_prune _
  items hkept := valueField_pruneEntries_schema es hkept (by decide)
  additional hkept := by
    rw [valueField_pruneEntries_schema es hkept (by decide)]
    exact ⟨hasAdditional_prune _, fun _ => rfl⟩
  properties hkept := by
    rw [mapField_pruneEntries es hkept, List.forall₂_map_left_iff, List.forall₂_same]
    exact fun e _ => ⟨rfl, rfl⟩
  required hkept e _ := by
    rw [listField_eq, valueField_pruneEntries_plain es hkept (by decide), ← listField_eq]

/-- **The node stays**, up to the schemas in it, which are pruned. -/
theorem isSimulation_prune : IsSimulation fun v w => v = prune w := by
  rintro _ schema rfl
  cases schema with
  | map es =>
    have hclassify := classify_prune (.map es)
    rw [prune] at hclassify ⊢
    exact (alikeOn_pruneEntries _ es).node hclassify
  | _ => exact ⟨rfl, rfl, rfl, .same _⟩

/-! ### Changes that do not count -/

/-- **Lists of required names that require the same** of the declared properties: up to the order,
to repetitions, to what is no name and to names that are not declared. -/
inductive SameRequired (declared : List Text) : List Value → List Value → Prop
  /-- The order does not count. -/
  | perm {items items' : List Value} : items.Perm items' → SameRequired declared items items'
  /-- Repetitions do not count. -/
  | repeated {item : Value} {items : List Value} : item ∈ items →
      SameRequired declared (item :: items) items
  /-- What is no name does not count. -/
  | nameless {item : Value} (items : List Value) : requiredName? item = none →
      SameRequired declared (item :: items) items
  /-- Names of other properties do not count. -/
  | undeclared {item : Value} {name : Text} (items : List Value) :
      requiredName? item = some name → name ∉ declared →
      SameRequired declared (item :: items) items
  /-- The relation is symmetric. -/
  | symm {items items' : List Value} : SameRequired declared items items' →
      SameRequired declared items' items
  /-- The relation is transitive. -/
  | trans {items items' items'' : List Value} : SameRequired declared items items' →
      SameRequired declared items' items'' → SameRequired declared items items''

/-- **Schemas that are the same up to what is ignored**: up to the changes below, each of them at
any depth. -/
inductive SameUsed : Value → Value → Prop
  /-- All that is not used may be dropped. -/
  | prune (schema : Value) : SameUsed (prune schema) schema
  /-- The entries of a schema may be reordered. -/
  | reorder {es fs : Entries} : es.Perm fs → (Entries.stringKeys es).Nodup →
      SameUsed (.map es) (.map fs)
  /-- The list of required names may be replaced by one that requires the same. -/
  | required {es : Entries} {items items' : List Value} :
      Entries.field? es "required" = some (.list items) →
      SameRequired ((mapField es "properties").map fun e => e.1.text) items items' →
      SameUsed (.map es) (.map (Entries.insert (.str "required") (.list items') es))
  /-- The changes may be made in the schema of a keyword. -/
  | schema {es : Entries} {name : String} {v w : Value} :
      name ∈ ["items", "additionalProperties"] → Entries.field? es name = some v →
      SameUsed v w → SameUsed (.map es) (.map (Entries.insert (.str name) w es))
  /-- They may be made in a schema of a list. -/
  | member {es : Entries} {name : String} {before after : List Value} {v w : Value} :
      name ∈ listKeywords → Entries.field? es name = some (.list (before ++ v :: after)) →
      SameUsed v w →
      SameUsed (.map es) (.map (Entries.insert (.str name) (.list (before ++ w :: after)) es))
  /-- They may be made in the schema of a property. -/
  | property {es before after : Entries} {key v w : Value} :
      Entries.field? es "properties" = some (.map (before ++ (key, v) :: after)) →
      SameUsed v w →
      SameUsed (.map es)
        (.map (Entries.insert (.str "properties") (.map (before ++ (key, w) :: after)) es))
  /-- The relation is reflexive. -/
  | refl (schema : Value) : SameUsed schema schema
  /-- The relation is symmetric. -/
  | symm {v w : Value} : SameUsed v w → SameUsed w v
  /-- The relation is transitive. -/
  | trans {u v w : Value} : SameUsed u v → SameUsed v w → SameUsed u w

/-- Lists that require the same do so for each declared name. -/
theorem SameRequired.mem_iff {declared : List Text} {items items' : List Value}
    (h : SameRequired declared items items') {n : Text} (hn : n ∈ declared) :
    n ∈ requiredNames items ↔ n ∈ requiredNames items' := by
  induction h with
  | perm hperm => exact (hperm.filterMap requiredName?).mem_iff
  | @repeated item items hitem =>
    simp only [requiredNames, List.mem_filterMap, List.mem_cons, exists_eq_or_imp]
    exact or_iff_right_of_imp fun hname => ⟨item, hitem, hname⟩
  | nameless items hname => rw [requiredNames, List.filterMap_cons_none hname, requiredNames]
  | undeclared items hname hdeclared =>
    rw [requiredNames, List.filterMap_cons_some hname, List.mem_cons, requiredNames]
    exact or_iff_right fun hother => hdeclared (hother ▸ hn)
  | symm _ ih => exact ih.symm
  | trans _ _ ih ih' => exact ih.trans ih'

/-! ### They do not count -/

/-- **Schemas that cannot be told apart**, wherever they stand. -/
structure Indistinct (v w : Value) : Prop where
  /-- Both are mappings, or neither is. -/
  isMap : v.isMap = w.isMap
  /-- What is no mapping is the same. -/
  eq : v.isMap = false → v = w
  /-- They have the same type, and they say the same of themselves. -/
  member (d : Dialect) : SameMember (typeOf d) v w

namespace Indistinct

variable {u v w : Value}

theorem refl (v : Value) : Indistinct v v := ⟨rfl, fun _ => rfl, fun _ => ⟨rfl, rfl, rfl⟩⟩

theorem symm (h : Indistinct v w) : Indistinct w v :=
  ⟨h.isMap.symm, fun hw => (h.eq (h.isMap.trans hw)).symm, fun d =>
    ⟨(h.member d).type.symm, (h.member d).description.symm, (h.member d).nullable.symm⟩⟩

theorem trans (h : Indistinct u v) (h' : Indistinct v w) : Indistinct u w :=
  ⟨h.isMap.trans h'.isMap, fun hu => (h.eq hu).trans (h'.eq (h.isMap.symm.trans hu)), fun d =>
    ⟨(h.member d).type.trans (h'.member d).type,
      (h.member d).description.trans (h'.member d).description,
      (h.member d).nullable.trans (h'.member d).nullable⟩⟩

/-- Two mappings, or the same value. -/
theorem isMap_or_eq (h : Indistinct v w) : (v.isMap ∧ w.isMap) ∨ v = w := by
  cases hv : v.isMap with
  | true => exact .inl ⟨rfl, h.isMap ▸ hv⟩
  | false => exact .inr (h.eq hv)

theorem isPresent_eq (h : Indistinct v w) : isPresent (some v) = isPresent (some w) := by
  rcases h.isMap_or_eq with ⟨hv, hw⟩ | rfl
  · rw [isPresent_of_isMap hv, isPresent_of_isMap hw]
  · rfl

theorem sameAdditional (h : Indistinct v w) : SameAdditional Indistinct v w := by
  refine ⟨?_, fun _ => h⟩
  rcases h.isMap_or_eq with ⟨hv, hw⟩ | rfl
  · rw [hasAdditional_of_isMap hv, hasAdditional_of_isMap hw]
  · rfl

/-- Mappings whose nodes are alike cannot be told apart. -/
theorem of_node {es fs : Entries}
    (h : Node.Alike Indistinct (Node.ofValue (.map es)) (Node.ofValue (.map fs))) :
    Indistinct (.map es) (.map fs) := by
  refine ⟨rfl, fun hmap => (nomatch hmap), fun d => ⟨?_, h.description, h.nullable⟩⟩
  rw [typeOf_eq, typeOf_eq d (.map fs)]
  exact h.typeWith_eq (fun _ => typeOf_of_not_map) fun v w hvw => hvw.member d

theorem prune (schema : Value) : Indistinct (prune schema) schema := by
  have hnode := isSimulation_prune _ schema rfl
  refine ⟨?_, fun hmap => ?_, fun d =>
    ⟨isSimulation_prune.typeOf_eq rfl, hnode.description, hnode.nullable⟩⟩
  · cases schema <;> rfl
  · cases schema with
    | map es => simp [Schema.prune, Value.isMap] at hmap
    | _ => rfl

/-- Mappings with the same look-ups cannot be told apart. -/
theorem of_field? {es fs : Entries}
    (h : ∀ name, Entries.field? es name = Entries.field? fs name) :
    Indistinct (.map es) (.map fs) := by
  have hnode : Node.ofValue (.map es) = Node.ofValue (.map fs) :=
    Node.ofValue_congr fun name => congrArg (·.getD .null) (h name)
  refine .of_node ?_
  rw [hnode]
  exact ⟨rfl, rfl, rfl, .same _⟩

end Indistinct

/-! ### One keyword -/

/-- **Values of a keyword that cannot be told apart**, where `declared` are the names of the
properties next to it. -/
structure SameKeyword (declared : List Text) (name : String) (v w : Value) : Prop where
  /-- What is no place of schemas is the same. -/
  plain : name ∈ plainKeywords → v = w
  /-- Lists of schemas are lists on both sides. -/
  isSome : name ∈ listKeywords → v.items?.isSome = w.items?.isSome
  /-- The schemas in them cannot be told apart. -/
  combined : name ∈ listKeywords →
    List.Forall₂ Indistinct (v.items?.getD []) (w.items?.getD [])
  /-- Schemas cannot be told apart. -/
  schema : name ∈ ["items", "additionalProperties"] → Indistinct v w
  /-- Properties cannot, either. -/
  properties : name = "properties" →
    List.Forall₂ (SameName Indistinct) (v.entries?.getD []) (w.entries?.getD [])
  /-- The same ones of them are required. -/
  required : name = "required" → ∀ n ∈ declared,
    n ∈ requiredNames (v.items?.getD []) ↔ n ∈ requiredNames (w.items?.getD [])

namespace SameKeyword

variable {declared : List Text} {name : String}

theorem refl (declared : List Text) (name : String) (v : Value) :
    SameKeyword declared name v v where
  plain _ := rfl
  isSome _ := rfl
  combined _ := List.forall₂_same.2 fun v _ => .refl v
  schema _ := .refl v
  properties _ := List.forall₂_same.2 fun e _ => ⟨rfl, .refl e.2⟩
  required _ _ _ := Iff.rfl

/-- Mappings are alike if the values of each keyword are the same. -/
theorem mapAlike {es fs : Entries}
    (h : ∀ name, SameKeyword ((mapField es "properties").map fun e => e.1.text) name
      (valueField es name) (valueField fs name)) :
    MapAlike Indistinct es fs where
  plain name := (h name).plain
  isSome name := (h name).isSome
  combined name hname := by
    rw [listField_eq, listField_eq]
    exact (h name).combined hname
  isPresent := ((h "items").schema (by decide)).isPresent_eq
  items := (h "items").schema (by decide)
  additional := ((h "additionalProperties").schema (by decide)).sameAdditional
  properties := by
    rw [mapField_eq, mapField_eq]
    exact (h "properties").properties rfl
  required e he := by
    rw [listField_eq, listField_eq]
    exact (h "required").required rfl _ (List.mem_map_of_mem he)

/-- **One keyword is changed**, and the schemas cannot be told apart. -/
theorem insert {es : Entries} {w : Value}
    (h : SameKeyword ((mapField es "properties").map fun e => e.1.text) name
      (valueField es name) w) :
    Indistinct (.map es) (.map (Entries.insert (.str name) w es)) := by
  refine .of_node (mapAlike fun s => ?_).node
  rw [valueField_insert]
  split
  · next hs => rwa [hs]
  · exact .refl _ _ _

/-- A schema in the place of one that cannot be told apart from it. -/
theorem of_schema {v w : Value} (hname : name ∈ ["items", "additionalProperties"])
    (h : Indistinct v w) : SameKeyword declared name v w := by
  simp only [List.mem_cons, List.not_mem_nil, or_false] at hname
  rcases hname with rfl | rfl <;>
    refine ⟨fun hs => absurd hs ?_, fun hs => absurd hs ?_, fun hs => absurd hs ?_, fun _ => h,
      fun hs => absurd hs ?_, fun hs => absurd hs ?_⟩ <;>
    decide

/-- A list of schemas. -/
theorem of_list {vs ws : List Value} (hname : name ∈ listKeywords)
    (h : List.Forall₂ Indistinct vs ws) : SameKeyword declared name (.list vs) (.list ws) := by
  simp only [listKeywords, List.mem_cons, List.not_mem_nil, or_false] at hname
  rcases hname with rfl | rfl | rfl <;>
    refine ⟨fun hs => absurd hs ?_, fun _ => rfl, fun _ => h, fun hs => absurd hs ?_,
      fun hs => absurd hs ?_, fun hs => absurd hs ?_⟩ <;>
    decide

/-- Some properties. -/
theorem of_properties {ps qs : Entries} (h : List.Forall₂ (SameName Indistinct) ps qs) :
    SameKeyword declared "properties" (.map ps) (.map qs) := by
  refine ⟨fun hs => absurd hs ?_, fun hs => absurd hs ?_, fun hs => absurd hs ?_,
    fun hs => absurd hs ?_, fun _ => h, fun hs => absurd hs ?_⟩ <;>
    decide

/-- A list of required names. -/
theorem of_required {items items' : List Value} (h : SameRequired declared items items') :
    SameKeyword declared "required" (.list items) (.list items') := by
  refine ⟨fun hs => absurd hs ?_, fun hs => absurd hs ?_, fun hs => absurd hs ?_,
    fun hs => absurd hs ?_, fun hs => absurd hs ?_, fun _ n hn => h.mem_iff hn⟩ <;>
    decide

end SameKeyword

/-! ### The types -/

theorem forall₂_replace {α : Type} {r : α → α → Prop} (hrefl : ∀ a, r a a) {a b : α}
    (h : r a b) (before after : List α) :
    List.Forall₂ r (before ++ a :: after) (before ++ b :: after) := by
  induction before with
  | nil => exact .cons h (List.forall₂_same.2 fun a _ => hrefl a)
  | cons c before ih => exact .cons (hrefl c) ih

/-- **Changes that do not count cannot be told**, at whatever depth they are made. -/
theorem SameUsed.indistinct {v w : Value} (h : SameUsed v w) : Indistinct v w := by
  have hvalue : ∀ {es : Entries} {name : String} {v : Value}, Entries.field? es name = some v →
      valueField es name = v := fun h => congrArg (·.getD .null) h
  induction h with
  | prune schema => exact .prune schema
  | reorder hperm hnodup => exact .of_field? (Entries.field?_perm hperm hnodup)
  | required hfield hsame =>
    refine SameKeyword.insert ?_
    rw [hvalue hfield]
    exact .of_required hsame
  | schema hname hfield _ ih =>
    refine SameKeyword.insert ?_
    rw [hvalue hfield]
    exact .of_schema hname ih
  | @member es name before after v w hname hfield _ ih =>
    refine SameKeyword.insert ?_
    rw [hvalue hfield]
    exact .of_list hname (forall₂_replace Indistinct.refl ih before after)
  | @property es before after key v w hfield _ ih =>
    refine SameKeyword.insert ?_
    rw [hvalue hfield]
    exact .of_properties (forall₂_replace (fun e => ⟨rfl, .refl e.2⟩) ⟨rfl, ih⟩ before after)
  | refl schema => exact .refl schema
  | symm _ ih => exact ih.symm
  | trans _ _ ih ih' => exact ih.trans ih'

/-- **What is ignored never gets into the output.** The type of a schema is that of what is used
of it; schemas that are the same up to what is ignored have one type; and modules of such schemas
are the same, all that in both dialects. -/
theorem typeText_ignores (d : Dialect) :
    (∀ schema, typeText d (prune schema) = typeText d schema) ∧
      (∀ v w, SameUsed v w → typeText d v = typeText d w) ∧
      ∀ schemas schemas', List.Forall₂ (SameName SameUsed) schemas schemas' →
        moduleText d schemas = moduleText d schemas' := by
  have hmember : ∀ v w, SameUsed v w → SameMember (typeOf d) v w :=
    fun v w h => h.indistinct.member d
  have htype : ∀ v w, SameUsed v w → typeText d v = typeText d w :=
    fun v w h => congrArg TypeExpr.text (hmember v w h).type
  exact ⟨fun schema => htype _ _ (.prune schema), htype,
    fun schemas schemas' => moduleText_eq_of_sameMember hmember⟩

/-- A schema that says more than is used: there is an enumeration with properties in it, and the
names that are required are not all declared. -/
def wordySchema : Value :=
  .map
    [(.str "title", .str "Pet"),
      (.str "$ref", .str ""),
      (.str "required", .list [.str "kind", .null, .str "age", .str "owner", .str "kind"]),
      (.str "items", .bool false),
      (.str "properties", .map
        [(.str "kind", .map
            [(.str "type", .str "object"), (.str "enum", .list [.str "cat"]),
              (.str "properties", .map [(.str "name", .map [])])]),
          (.str "age", .map [(.str "format", .str "int32"), (.str "type", .str "integer")])])]

/-- The properties of both schemas, with what is used of them. -/
def terseProperties : Entries :=
  [(.str "kind", .map [(.str "enum", .list [.str "cat"])]),
    (.str "age", .map [(.str "type", .str "integer")])]

/-- The same schema in few words. -/
def terseSchema : Value :=
  .map [(.str "properties", .map terseProperties),
    (.str "required", .list [.str "age", .str "kind"])]

theorem sameUsed_terseSchema : SameUsed wordySchema terseSchema := by
  have hnames : SameRequired ["kind".toList, "age".toList]
      [.str "kind", .null, .str "age", .str "owner", .str "kind"] [.str "age", .str "kind"] := by
    refine .trans (.repeated (by simp)) (.trans (.nameless _ rfl) ?_)
    refine .trans (.perm (.swap _ _ _)) (.undeclared _ rfl (by decide))
  refine .trans (.symm (.prune wordySchema)) ?_
  refine .trans (.required rfl hnames) (.reorder (.swap _ _ _) (by decide))

/-- The two schemas have one type, and so do the modules with nothing but them agree. -/
theorem typeText_ignores_terseSchema :
    SameUsed wordySchema terseSchema ∧
      typeText .openapi3 wordySchema = typeText .openapi3 terseSchema ∧
      moduleText .openapi3 [(.str "Pet", wordySchema)] =
        moduleText .openapi3 [(.str "Pet", terseSchema)] := by
  obtain ⟨-, htype, hmodule⟩ := typeText_ignores .openapi3
  refine ⟨sameUsed_terseSchema, htype _ _ sameUsed_terseSchema, hmodule _ _ ?_⟩
  exact .cons ⟨rfl, sameUsed_terseSchema⟩ .nil

end ApiTypes.Schema
