import ApiTypes.Proofs.Schema.Keywords
import ApiTypes.Proofs.Schema.Rendered
import ApiTypes.TypeScript.Module
import Mathlib.Data.List.Forall2

/-!
# Schemas of one type

Two schemas that differ can have the same type, and to show that they do it is not necessary to
go through the making of types. A relation between schemas is a *simulation*
(`ApiTypes.Schema.IsSimulation`) if the nodes of related schemas are alike: they have one
category, one description and one shape, up to the schemas inside of them, which have to be
related again. Schemas that a simulation relates have the same type
(`ApiTypes.Schema.IsSimulation.typeOf_eq`), and modules of such schemas are the same
(`ApiTypes.Schema.IsSimulation.moduleText_eq`).

Two shapes of objects may be alike although their lists of required names differ: what counts is
which properties are in them. And all that is no mapping is alike in the place of a schema.
-/

namespace ApiTypes.Schema

open TypeScript

/-! ### Nodes that are alike -/

section Alike

variable (R : Value → Value → Prop)

/-- Two entries with one name and with related schemas. -/
def SameName (e e' : Value × Value) : Prop := e.1.text = e'.1.text ∧ R e.2 e'.2

/-- Related schemas of further properties, if there are further properties. -/
def SameAdditional (a a' : Value) : Prop :=
  hasAdditional a = hasAdditional a' ∧ (hasAdditional a → R a a')

/-- **Shapes that are alike**, up to related schemas in them. -/
inductive Shape.Alike : Shape → Shape → Prop
  /-- A shape is like itself. -/
  | same (s : Shape) : Alike s s
  /-- What is no schema is like everything else that is none. -/
  | unknown (v w : Value) : Alike (.unknown v) (.unknown w)
  /-- Combinations of related schemas. -/
  | union {vs ws : List Value} : List.Forall₂ R vs ws → Alike (.union vs) (.union ws)
  /-- Arrays of related schemas. -/
  | array {v w : Value} : R v w → Alike (.array v) (.array w)
  /-- Objects with properties of the same names, of which the same are required. -/
  | object {ps qs : Entries} {names names' : List Text} {bases bases' : List Value}
      {a a' : Value} : List.Forall₂ (SameName R) ps qs →
      (∀ e ∈ ps, e.1.text ∈ names ↔ e.1.text ∈ names') →
      List.Forall₂ R bases bases' → SameAdditional R a a' →
      Alike (.object ps names bases a) (.object qs names' bases' a')

/-- **Nodes that are alike**, up to related schemas in them. -/
structure Node.Alike (m n : Node) : Prop where
  /-- They have one category. -/
  category : m.category = n.category
  /-- They have one description. -/
  description : m.description = n.description
  /-- Both allow null, or neither does. -/
  nullable : m.nullable = n.nullable
  /-- Their shapes are alike. -/
  shape : Shape.Alike R m.shape n.shape

/-- **A simulation**: the nodes of related schemas are alike. -/
def IsSimulation : Prop := ∀ v w, R v w → Node.Alike R (Node.ofValue v) (Node.ofValue w)

/-- The keywords that are read for the type of a schema of some category. -/
def usedKeywords : Category → List String
  | .ref => ["$ref"]
  | .enum => ["enum"]
  | .boolean | .string | .number => ["type"]
  | .anyOf => ["anyOf"]
  | .oneOf => ["oneOf"]
  | .array => ["type", "items"]
  | .object => ["properties", "required", "allOf", "additionalProperties"]
  | .unknown => []

/-- The keywords that are kept: those that are used, and what a schema says about itself. -/
def keptKeywords (category : Category) : List String :=
  "description" :: "nullable" :: usedKeywords category

/-- The keywords that say something by their values, and not by schemas in them. -/
def plainKeywords : List String := ["$ref", "enum", "type", "description", "nullable"]

/-- **Mappings that are alike in some keywords.** -/
structure AlikeOn (kept : List String) (es fs : Entries) : Prop where
  /-- They agree on what is no place of schemas. -/
  plain : ∀ name ∈ plainKeywords, name ∈ kept → valueField es name = valueField fs name
  /-- The schemas in lists are related. -/
  combined : ∀ name ∈ listKeywords, name ∈ kept →
    List.Forall₂ R (listField es name) (listField fs name)
  /-- The schemas of the items are related. -/
  items : "items" ∈ kept → R (valueField es "items") (valueField fs "items")
  /-- Further properties are related. -/
  additional : "additionalProperties" ∈ kept → SameAdditional R
    (valueField es "additionalProperties") (valueField fs "additionalProperties")
  /-- The properties are related. -/
  properties : "properties" ∈ kept →
    List.Forall₂ (SameName R) (mapField es "properties") (mapField fs "properties")
  /-- The same ones of them are required. -/
  required : "required" ∈ kept → ∀ e ∈ mapField es "properties",
    e.1.text ∈ requiredNames (listField es "required") ↔
      e.1.text ∈ requiredNames (listField fs "required")

/-- **Mappings of one category have nodes that are alike** if they are alike in the keywords that
this category uses. -/
theorem AlikeOn.node {R : Value → Value → Prop} {es fs : Entries}
    (hclassify : classify (.map es) = classify (.map fs))
    (h : AlikeOn R (keptKeywords (classify (.map fs))) es fs) :
    Node.Alike R (Node.ofValue (.map es)) (Node.ofValue (.map fs)) := by
  have hdescription := h.plain "description" (by decide) (by simp [keptKeywords])
  have hnullable := h.plain "nullable" (by decide) (by simp [keptKeywords])
  refine ⟨hclassify, ?_, ?_, ?_⟩
  · simp only [Node.ofValue, description?_eq, hdescription]
  · simp only [Node.ofValue, isNullable_eq, hnullable]
  · simp only [Node.ofValue, hclassify]
    cases hc : classify (.map fs) with rw [hc] at h
    | unknown => exact absurd hc (classify_map_ne_unknown fs)
    | ref =>
      rw [Shape.ofEntries, h.plain "$ref" (by decide) (by decide)]
      exact .same _
    | enum =>
      rw [Shape.ofEntries, listField_eq, h.plain "enum" (by decide) (by decide), ← listField_eq]
      exact .same _
    | boolean | string | number =>
      rw [Shape.ofEntries, type?_eq, h.plain "type" (by decide) (by decide), ← type?_eq]
      exact .same _
    | anyOf => exact .union (h.combined "anyOf" (by decide) (by decide))
    | oneOf => exact .union (h.combined "oneOf" (by decide) (by decide))
    | array => exact .array (h.items (by decide))
    | object =>
      exact .object (h.properties (by decide)) (h.required (by decide))
        (h.combined "allOf" (by decide) (by decide)) (h.additional (by decide))

/-- **Mappings that are alike**, keyword by keyword. -/
structure MapAlike (es fs : Entries) : Prop where
  /-- They agree on what is no place of schemas. -/
  plain : ∀ name ∈ plainKeywords, valueField es name = valueField fs name
  /-- They have the same lists of schemas. -/
  isSome : ∀ name ∈ listKeywords,
    (valueField es name).items?.isSome = (valueField fs name).items?.isSome
  /-- The schemas in these lists are related. -/
  combined : ∀ name ∈ listKeywords, List.Forall₂ R (listField es name) (listField fs name)
  /-- Both have items, or neither has. -/
  isPresent : isPresent (some (valueField es "items")) = isPresent (some (valueField fs "items"))
  /-- The schemas of the items are related. -/
  items : R (valueField es "items") (valueField fs "items")
  /-- Further properties are related. -/
  additional : SameAdditional R (valueField es "additionalProperties")
    (valueField fs "additionalProperties")
  /-- The properties are related. -/
  properties : List.Forall₂ (SameName R) (mapField es "properties") (mapField fs "properties")
  /-- The same ones of them are required. -/
  required : ∀ e ∈ mapField es "properties", e.1.text ∈ requiredNames (listField es "required") ↔
    e.1.text ∈ requiredNames (listField fs "required")

/-- **Mappings that are alike have nodes that are.** -/
theorem MapAlike.node {R : Value → Value → Prop} {es fs : Entries} (h : MapAlike R es fs) :
    Node.Alike R (Node.ofValue (.map es)) (Node.ofValue (.map fs)) := by
  have hclassify : classify (.map es) = classify (.map fs) := by
    apply classify_congr
    · rw [h.plain "$ref" (by decide)]
    · rw [h.plain "enum" (by decide)]
    · rw [h.plain "type" (by decide)]
    · exact h.isSome "anyOf" (by decide)
    · exact h.isSome "oneOf" (by decide)
    · exact h.isPresent
  exact AlikeOn.node hclassify ⟨fun name hname _ => h.plain name hname,
    fun name hname _ => h.combined name hname, fun _ => h.items, fun _ => h.additional,
    fun _ => h.properties, fun _ => h.required⟩

end Alike

/-! ### Types of related schemas -/

theorem map_eq_map_of_forall₂ {α β γ : Type} {r : α → β → Prop} {f : α → γ} {g : β → γ}
    (h : ∀ a b, r a b → f a = g b) {as : List α} {bs : List β} (hr : List.Forall₂ r as bs) :
    as.map f = bs.map g := by
  induction hr with
  | nil => rfl
  | cons hab _ ih => rw [List.map_cons, List.map_cons, h _ _ hab, ih]

section Level

variable {d : Dialect} {f : Value → TypeExpr} {R : Value → Value → Prop}

/-- The type of further properties is that of their schema, if what is no mapping has the type
that is not restricted. -/
theorem additionalType_of_any (hany : ∀ v : Value, v.isMap = false → f v = .any)
    (additional : Value) :
    additionalType d f additional =
      if (f additional).isVoid then .any else f additional := by
  unfold additionalType
  split
  · rw [hany _ rfl]
    rfl
  · rfl

/-- What is to be known of related schemas at one level: they have the same type, and they say the
same of themselves. -/
structure SameMember (f : Value → TypeExpr) (v w : Value) : Prop where
  /-- They have the same type. -/
  type : f v = f w
  /-- They have one description. -/
  description : (Node.ofValue v).description = (Node.ofValue w).description
  /-- Both allow null, or neither does. -/
  nullable : (Node.ofValue v).nullable = (Node.ofValue w).nullable

theorem memberOf_eq_of_sameMember {names names' : List Text} {key key' v w : Value}
    (hkey : key.text = key'.text) (hnames : key.text ∈ names ↔ key.text ∈ names')
    (h : SameMember f v w) :
    memberOf d f names key v = memberOf d f names' key' w := by
  rw [hkey] at hnames
  simp only [memberOf, commentOf, propertyType, h.type, h.description, h.nullable, hkey, hnames]

theorem membersOf_eq_of_forall₂ {names names' : List Text} {ps qs : Entries}
    (hR : ∀ v w, R v w → SameMember f v w) (hps : List.Forall₂ (SameName R) ps qs)
    (hnames : ∀ e ∈ ps, e.1.text ∈ names ↔ e.1.text ∈ names') :
    membersOf d f ps names = membersOf d f qs names' := by
  induction hps with
  | nil => rfl
  | cons he _ ih =>
    have hhead := hnames _ List.mem_cons_self
    have htail := ih fun e he => hnames e (List.mem_cons_of_mem _ he)
    rw [membersOf, List.map_cons, ← membersOf, htail,
      memberOf_eq_of_sameMember he.1 hhead (hR _ _ he.2)]
    rfl

theorem indexType_eq_of_sameAdditional (hany : ∀ v : Value, v.isMap = false → f v = .any)
    (htype : ∀ v w, R v w → f v = f w) {a a' : Value} (h : SameAdditional R a a') :
    indexType d f a = indexType d f a' := by
  obtain ⟨hhas, hsame⟩ := h
  rw [indexType, indexType, ← hhas]
  split
  · next ha => rw [additionalType_of_any hany, additionalType_of_any hany, htype _ _ (hsame ha)]
  · rfl

/-- **Nodes that are alike have one type**, if related schemas have. -/
theorem Node.Alike.typeWith_eq (hany : ∀ v : Value, v.isMap = false → f v = .any)
    (hR : ∀ v w, R v w → SameMember f v w) {m n : Node} (h : Node.Alike R m n) :
    m.typeWith d f = n.typeWith d f := by
  obtain ⟨category, description, nullable, shape⟩ := m
  obtain ⟨category', description', nullable', shape'⟩ := n
  obtain ⟨hcategory, -, -, hshape⟩ := h
  have htype : ∀ v w, R v w → f v = f w := fun v w h => (hR v w h).type
  obtain rfl : category = category' := hcategory
  cases hshape with
  | same => rfl
  | unknown => rfl
  | union hvs =>
    have hunion := map_eq_map_of_forall₂ htype hvs
    have hpartial := map_eq_map_of_forall₂
      (fun v w h => congrArg TypeExpr.partially (htype v w h)) hvs
    simp only [Node.typeWith, unionType, hunion, hpartial]
  | array hv => exact congrArg TypeExpr.array (htype _ _ hv)
  | object hps hnames hbases hadditional =>
    have hmembers := membersOf_eq_of_forall₂ (d := d) hR hps hnames
    have hbase := map_eq_map_of_forall₂ htype hbases
    have hindex := indexType_eq_of_sameAdditional (d := d) hany htype hadditional
    simp only [Node.typeWith, objectType_eq, hmembers, hbase, hindex]

end Level

/-- Modules of schemas are the same if the schemas have the same types, and say the same of
themselves. -/
theorem moduleText_eq_of_sameMember {d : Dialect} {R : Value → Value → Prop}
    (hR : ∀ v w, R v w → SameMember (typeOf d) v w) {schemas schemas' : Entries}
    (h : List.Forall₂ (SameName R) schemas schemas') :
    moduleText d schemas = moduleText d schemas' := by
  have hnames : (schemas.map fun e => e.1.text) = schemas'.map fun e => e.1.text :=
    map_eq_map_of_forall₂ (fun _ _ he => he.1) h
  rw [moduleText, moduleText, moduleMembers, moduleMembers, membersText, membersText, hnames,
    membersOf_eq_of_forall₂ hR h fun _ _ => Iff.rfl]

section Simulation

variable {d : Dialect} {R : Value → Value → Prop} {v w : Value}

theorem typeAt_of_not_map (d : Dialect) (n : Nat) {v : Value} (h : v.isMap = false) :
    typeAt d n v = .any := by
  cases n with
  | zero => rfl
  | succ n =>
    cases v with
    | map es => simp [Value.isMap] at h
    | _ => rfl

theorem IsSimulation.typeAt_eq (hR : IsSimulation R) (n : Nat) :
    ∀ v w, R v w → SameMember (typeAt d n) v w := by
  induction n with
  | zero => exact fun v w h => ⟨rfl, (hR v w h).description, (hR v w h).nullable⟩
  | succ n ih =>
    exact fun v w h => ⟨(hR v w h).typeWith_eq (fun _ => typeAt_of_not_map d n) ih,
      (hR v w h).description, (hR v w h).nullable⟩

/-- **Schemas that a simulation relates have one type.** -/
theorem IsSimulation.typeOf_eq (hR : IsSimulation R) (h : R v w) : typeOf d v = typeOf d w := by
  rw [typeOf, typeOf, typeAt_eq_of_depth_le (Nat.le_refl _) (Nat.le_max_left v.depth w.depth),
    typeAt_eq_of_depth_le (Nat.le_refl _) (Nat.le_max_right v.depth w.depth)]
  exact (hR.typeAt_eq _ v w h).type

/-- **Modules of related schemas are the same.** -/
theorem IsSimulation.moduleText_eq (hR : IsSimulation R) {schemas schemas' : Entries}
    (h : List.Forall₂ (SameName R) schemas schemas') :
    moduleText d schemas = moduleText d schemas' :=
  moduleText_eq_of_sameMember (fun v w hvw =>
    ⟨hR.typeOf_eq hvw, (hR v w hvw).description, (hR v w hvw).nullable⟩) h

end Simulation

end ApiTypes.Schema
