import ApiTypes.Proofs.Value.Entries
import ApiTypes.Schema.Node

/-!
# What a node depends on

The node of a mapping is read off the values of some of its keywords, where a keyword that is
missing counts as null. Two mappings that agree on all keywords in this sense have the same
node (`ApiTypes.Schema.Node.ofValue_congr`), whatever else they contain and however their
entries are ordered.
-/

namespace ApiTypes.Schema

variable {es fs : Entries}

/-- Whether a key is one of some keywords. -/
def isKeyword (names : List String) (key : Value) : Bool := key.str?.any (· ∈ names)

/-- The keywords of lists of schemas. -/
def listKeywords : List String := ["anyOf", "oneOf", "allOf"]

theorem isTruthy_field? (es : Entries) (name : String) :
    isTruthy (Entries.field? es name) = (valueField es name).truthy := by
  unfold valueField
  cases Entries.field? es name <;> rfl

theorem listField?_eq (es : Entries) (name : String) :
    listField? es name = (valueField es name).items? := by
  unfold listField? valueField
  cases Entries.field? es name <;> rfl

theorem type?_eq (es : Entries) : type? es = (valueField es "type").str? := by
  unfold type? valueField
  cases Entries.field? es "type" <;> rfl

theorem isPresent_field? (es : Entries) (name : String) :
    isPresent (Entries.field? es name) = isPresent (some (valueField es name)) := by
  unfold valueField
  cases Entries.field? es name <;> rfl

theorem mapField_eq (es : Entries) (name : String) :
    mapField es name = ((valueField es name).entries?).getD [] := by
  unfold mapField valueField
  cases Entries.field? es name <;> rfl

theorem listField_eq (es : Entries) (name : String) :
    listField es name = ((valueField es name).items?).getD [] := by
  rw [listField, listField?_eq]

theorem description?_eq (es : Entries) :
    description? es = (valueField es "description").str?.filter (· ≠ "") := by
  unfold description? valueField
  cases Entries.field? es "description" <;> rfl

theorem isNullable_eq (es : Entries) :
    isNullable es = match valueField es "nullable" with | .bool b => b | _ => false := by
  unfold isNullable valueField
  cases Entries.field? es "nullable" with
  | none => rfl
  | some v => cases v <;> rfl

theorem valueField_insert {name : String} (s : String) (v : Value) (es : Entries) :
    valueField (Entries.insert (.str name) v es) s = if s = name then v else valueField es s := by
  rw [valueField, Entries.field?_insert]
  split <;> rfl

theorem isPresent_of_isMap {v : Value} (h : v.isMap) : isPresent (some v) = true := by
  cases v with
  | map es => rfl
  | _ => simp [Value.isMap] at h

theorem hasAdditional_of_isMap {v : Value} (h : v.isMap) : hasAdditional v = true := by
  cases v with
  | map es => rfl
  | _ => simp [Value.isMap] at h

/-! ### The category and the node -/

theorem primitive?_eq_some {type : String} {c : Category} (h : primitive? type = some c) :
    c = .boolean ∨ c = .string ∨ c = .number := by
  unfold primitive? at h
  split at h
  · exact .inl (Option.some.inj h).symm
  · split at h
    · exact .inr (.inl (Option.some.inj h).symm)
    · split at h
      · exact .inr (.inr (Option.some.inj h).symm)
      · simp at h

/-- A mapping always has a category. -/
theorem classify_map_ne_unknown (es : Entries) : classify (.map es) ≠ .unknown := by
  rw [classify]
  split
  · simp
  · split
    · simp
    · split
      · next c hc =>
        obtain ⟨type, -, hc⟩ := Option.bind_eq_some_iff.1 hc
        rcases primitive?_eq_some hc with rfl | rfl | rfl <;> simp
      · split
        · simp
        · split
          · simp
          · split <;> simp

/-- The category of a mapping, read off the values of its keywords. -/
theorem classify_map (es : Entries) :
    classify (.map es) =
      if (valueField es "$ref").truthy then .ref
      else if (valueField es "enum").items?.isSome then .enum
      else ((valueField es "type").str?.bind primitive?).getD
        (if (valueField es "anyOf").items?.isSome then .anyOf
          else if (valueField es "oneOf").items?.isSome then .oneOf
          else if (valueField es "type").str? = some "array" ∨
            isPresent (some (valueField es "items")) then .array
          else .object) := by
  rw [classify, isTruthy_field?, listField?_eq, type?_eq, listField?_eq, listField?_eq,
    isPresent_field?]
  cases (valueField es "type").str?.bind primitive? <;> rfl

/-- The category of a mapping depends on six keywords, and on some of them only as to
whether they have a value of the right kind. -/
theorem classify_congr
    (href : (valueField es "$ref").truthy = (valueField fs "$ref").truthy)
    (henum : (valueField es "enum").items?.isSome = (valueField fs "enum").items?.isSome)
    (htype : (valueField es "type").str? = (valueField fs "type").str?)
    (hany : (valueField es "anyOf").items?.isSome = (valueField fs "anyOf").items?.isSome)
    (hone : (valueField es "oneOf").items?.isSome = (valueField fs "oneOf").items?.isSome)
    (hitems : isPresent (some (valueField es "items")) =
      isPresent (some (valueField fs "items"))) :
    classify (.map es) = classify (.map fs) := by
  simp only [classify_map, href, henum, htype, hany, hone, hitems]

/-- Mappings that agree on all keywords but `nullable` have the same node up to whether null is
allowed. -/
theorem Node.ofValue_congr_of_ne_nullable
    (h : ∀ name, name ≠ "nullable" → valueField es name = valueField fs name) :
    Node.ofValue (.map es) = { Node.ofValue (.map fs) with nullable := isNullable es } := by
  have hclassify : classify (.map es) = classify (.map fs) := by
    apply classify_congr <;> rw [h _ (by decide)]
  have hne := classify_map_ne_unknown fs
  have hshape : Shape.ofEntries es (classify (.map fs)) =
      Shape.ofEntries fs (classify (.map fs)) := by
    cases hc : classify (.map fs) with
    | unknown => exact absurd hc hne
    | _ => simp only [Shape.ofEntries, listField_eq, mapField_eq, type?_eq, h, ne_eq,
        String.reduceEq, not_false_eq_true]
  simp only [Node.ofValue, hclassify, hshape, description?_eq, h "description" (by decide)]

/-- **Mappings that agree on all keywords have the same node.** -/
theorem Node.ofValue_congr (h : ∀ name, valueField es name = valueField fs name) :
    Node.ofValue (.map es) = Node.ofValue (.map fs) := by
  rw [Node.ofValue_congr_of_ne_nullable fun name _ => h name, isNullable_eq, h, ← isNullable_eq]
  rfl

end ApiTypes.Schema
