import ApiTypes.Proofs.Hook.Total

/-!
# The answers of a hook

The pass keeps one list of required names for all properties of an object and edits it while it
goes through them, so that what a hook sees of a property could depend on its answers about those
in front. It does not, if no two properties have one name: an answer about a property changes
nothing but whether its own name is required (`ApiTypes.Hook.mem_require_iff`). So each property
is answered as if it were alone (`ApiTypes.Hook.settle_fst_of_nodup`), and the list says in the
end of each property what the hook has answered about it (`ApiTypes.Hook.decide_settle_of_nodup`).

The proviso is one on all the schemas that the pass goes through, down to any depth
(`ApiTypes.Hook.Walked`, `ApiTypes.Hook.WellNamed`).
-/

namespace ApiTypes.Hook

open Schema

variable {g : Entries → View → View} {required required' : Option (List Text)}
  {properties : Entries}

/-! ### The required names -/

/-- What a hook sees, read off the keywords of the property and the required names. -/
theorem viewOf_eq (required : Option (List Text)) (name : Text) (es : Entries) :
    viewOf required name es = ⟨valueField es "type", decide (name ∉ required.getD []),
      valueField es "description"⟩ := by
  cases required with
  | none => rfl
  | some names => rfl

theorem viewOf_optional (required : Option (List Text)) (name : Text) (es : Entries) :
    (viewOf required name es).optional = decide (name ∉ required.getD []) := by
  rw [viewOf_eq]

/-- A name is required after an answer exactly when the answer says so, and other names are
as before. -/
theorem mem_require_iff (required : Option (List Text)) (name n : Text) (optional : Bool) :
    n ∈ (require required name optional).getD [] ↔
      if n = name then optional = false else n ∈ required.getD [] := by
  by_cases hn : n = name
  · rw [if_pos hn, hn]
    cases optional <;> cases required with
    | none => simp [require]
    | some names => by_cases hmem : name ∈ names <;> simp [require, hmem]
  · rw [if_neg hn]
    cases optional <;> cases required with
    | none => simp [require, hn]
    | some names => by_cases hmem : name ∈ names <;> simp [require, hmem, hn]

/-- The names of other properties than those that are asked about stay as they are. -/
theorem mem_settle_iff_of_not_asked {n : Text}
    (h : ∀ e ∈ properties, (asked? e.2).isSome → e.1.text ≠ n) :
    n ∈ (settle g required properties).2.getD [] ↔ n ∈ required.getD [] := by
  induction properties generalizing required with
  | nil => rfl
  | cons e rest ih =>
    obtain ⟨key, property⟩ := e
    have hrest : ∀ e ∈ rest, (asked? e.2).isSome → e.1.text ≠ n :=
      fun e he => h e (List.mem_cons_of_mem _ he)
    rw [settle]
    cases ha : asked? property with
    | none => exact ih hrest
    | some es =>
      have hne : n ≠ key.text := (h (key, property) (by simp) (by simp [ha])).symm
      exact (ih hrest).trans ((mem_require_iff _ _ _ _).trans (by rw [if_neg hne]))

/-! ### Properties with different names -/

/-- **A property after the pass**, where `required` are the required names in front of it. -/
def answered (g : Entries → View → View) (required : Option (List Text)) (e : Value × Value) :
    Value :=
  match asked? e.2 with
  | none => e.2
  | some es => .map ((g es (viewOf required e.1.text es)).apply es)

/-- **Whether a property is optional after the pass**: as the hook answers, if it is asked. -/
def optionalAfter (g : Entries → View → View) (required : Option (List Text))
    (e : Value × Value) : Bool :=
  match asked? e.2 with
  | none => decide (e.1.text ∉ required.getD [])
  | some es => (g es (viewOf required e.1.text es)).optional

theorem answered_of_not_asked (g : Entries → View → View) (required : Option (List Text))
    (key : Value) {v : Value} (h : asked? v = none) :
    answered g required (key, v) = v ∧
      optionalAfter g required (key, v) = decide (key.text ∉ required.getD []) := by
  rw [answered, optionalAfter, h]
  exact ⟨rfl, rfl⟩

theorem answered_of_asked (g : Entries → View → View) (required : Option (List Text))
    (key : Value) {v : Value} {es : Entries} (h : asked? v = some es) :
    answered g required (key, v) = .map ((g es (viewOf required key.text es)).apply es) ∧
      optionalAfter g required (key, v) = (g es (viewOf required key.text es)).optional := by
  rw [answered, optionalAfter, h]
  exact ⟨rfl, rfl⟩

/-- What a hook sees of a property depends on the required names only as to its own name. -/
theorem viewOf_congr {name : Text} (h : name ∈ required.getD [] ↔ name ∈ required'.getD [])
    (es : Entries) : viewOf required name es = viewOf required' name es := by
  rw [viewOf_eq, viewOf_eq, decide_eq_decide.2 (not_congr h)]

theorem answered_congr {e : Value × Value}
    (h : e.1.text ∈ required.getD [] ↔ e.1.text ∈ required'.getD []) :
    answered g required e = answered g required' e := by
  unfold answered
  split
  · rfl
  · rw [viewOf_congr h]

theorem optionalAfter_congr {e : Value × Value}
    (h : e.1.text ∈ required.getD [] ↔ e.1.text ∈ required'.getD []) :
    optionalAfter g required e = optionalAfter g required' e := by
  unfold optionalAfter
  split
  · rw [decide_eq_decide, h]
  · rw [viewOf_congr h]

/-- An answer about a property of another name changes nothing for a property. -/
theorem mem_require_of_ne {name n : Text} (h : n ≠ name) (optional : Bool) :
    n ∈ (require required name optional).getD [] ↔ n ∈ required.getD [] := by
  rw [mem_require_iff, if_neg h]

/-- **Each property is answered as if it were alone**, if no two have one name. -/
theorem settle_fst_of_nodup (h : (properties.map fun e => e.1.text).Nodup)
    (required : Option (List Text)) :
    (settle g required properties).1 = properties.map fun e => (e.1, answered g required e) := by
  induction properties generalizing required with
  | nil => rfl
  | cons e rest ih =>
    obtain ⟨key, property⟩ := e
    rw [List.map_cons, List.nodup_cons] at h
    obtain ⟨hkey, hrest⟩ := h
    rw [settle, List.map_cons, answered]
    cases asked? property with
    | none => simp only [ih hrest]
    | some es =>
      simp only [ih hrest]
      refine congrArg _ (List.map_congr_left fun e he => ?_)
      have hne : e.1.text ≠ key.text := fun hn => hkey (hn ▸ List.mem_map_of_mem he)
      rw [answered_congr (mem_require_of_ne hne _)]

/-- **The required names say in the end what the hook has answered.** -/
theorem decide_settle_of_nodup (h : (properties.map fun e => e.1.text).Nodup)
    (required : Option (List Text)) {e : Value × Value} (he : e ∈ properties) :
    decide (e.1.text ∉ (settle g required properties).2.getD []) = optionalAfter g required e := by
  induction properties generalizing required with
  | nil => simp at he
  | cons k rest ih =>
    obtain ⟨key, property⟩ := k
    rw [List.map_cons, List.nodup_cons] at h
    obtain ⟨hkey, hrest⟩ := h
    have hother : ∀ e ∈ rest, e.1.text ≠ key.text := fun e he hn =>
      hkey (hn ▸ List.mem_map_of_mem he)
    rw [settle]
    rcases List.mem_cons.1 he with rfl | he
    · -- the first property: the answers about the others do not touch its name
      have hframe : ∀ required', key.text ∈ (settle g required' rest).2.getD [] ↔
          key.text ∈ required'.getD [] :=
        fun _ => mem_settle_iff_of_not_asked fun e he _ => hother e he
      rw [optionalAfter]
      cases asked? property with
      | none => simp only [hframe]
      | some es =>
        simp only [hframe, mem_require_iff, if_true]
        cases (g es (viewOf required key.text es)).optional <;> rfl
    · -- another property: the answer about the first one does not touch its name
      cases asked? property with
      | none => exact ih hrest required he
      | some es =>
        exact (ih hrest _ he).trans (optionalAfter_congr (mem_require_of_ne (hother e he) _))

/-! ### The schemas that the pass goes through -/

/-- The schemas of the items of an array: each of them, if there are several. -/
def itemSchemas : Value → List Value
  | .list items => items
  | v => [v]

/-- The schemas in a schema that the pass goes through, in its order. -/
def walkedIn : Value → List Value
  | .map es =>
    itemSchemas (valueField es "items") ++ listField es "allOf" ++ listField es "oneOf" ++
      listField es "anyOf" ++ valueField es "additionalProperties" ::
      (mapField es "properties").map (·.2)
  | _ => []

section WalkedIn

variable {es : Entries} {v : Value}

theorem mem_walkedIn_items (h : v ∈ itemSchemas (valueField es "items")) :
    v ∈ walkedIn (.map es) := by
  simp only [walkedIn, List.mem_append, h, true_or]

theorem mem_walkedIn_combined {name : String} (hname : name ∈ listKeywords)
    (h : v ∈ listField es name) : v ∈ walkedIn (.map es) := by
  simp only [listKeywords, List.mem_cons, List.not_mem_nil, or_false] at hname
  rcases hname with rfl | rfl | rfl <;> simp only [walkedIn, List.mem_append, h, or_true, true_or]

theorem mem_walkedIn_additional (es : Entries) :
    valueField es "additionalProperties" ∈ walkedIn (.map es) :=
  List.mem_append_right _ List.mem_cons_self

theorem mem_walkedIn_property {e : Value × Value} (h : e ∈ mapField es "properties") :
    e.2 ∈ walkedIn (.map es) := by
  have hmem : e.2 ∈ (mapField es "properties").map (·.2) := List.mem_map_of_mem h
  simp only [walkedIn, List.mem_append, List.mem_cons, hmem, or_true]

/-- The pass does not go through what is in something that is no mapping. -/
theorem walkedIn_of_not_map (h : v.isMap = false) : walkedIn v = [] := by
  cases v with
  | map es => simp [Value.isMap] at h
  | _ => rfl

end WalkedIn

/-- **The schemas that the pass goes through**, down to any depth. -/
inductive Walked : Value → Value → Prop
  /-- The schema itself. -/
  | self (schema : Value) : Walked schema schema
  /-- A schema further inside. -/
  | inside {schema v w : Value} : v ∈ walkedIn schema → Walked v w → Walked schema w

theorem Walked.snoc {schema v w : Value} (h : Walked schema v) (hw : w ∈ walkedIn v) :
    Walked schema w := by
  induction h with
  | self => exact .inside hw (.self w)
  | inside hu _ ih => exact .inside hu (ih hw)

/-- Where the pass comes to a mapping, it has gone through mappings only. -/
theorem Walked.isMap {schema v : Value} (h : Walked schema v) (hmap : v.isMap) :
    schema.isMap := by
  cases h with
  | self => exact hmap
  | inside hu _ =>
    cases hschema : schema.isMap with
    | true => rfl
    | false =>
      rw [walkedIn_of_not_map hschema] at hu
      exact absurd hu List.not_mem_nil

/-- The names of the properties of a schema are different ones. -/
def DistinctProperties (schema : Value) : Prop :=
  ∀ es, schema = .map es → ((mapField es "properties").map fun e => e.1.text).Nodup

/-- **A schema is well named**: in no schema that the pass goes through have two properties one
name. -/
def WellNamed (schema : Value) : Prop := ∀ v, Walked schema v → DistinctProperties v

theorem wellNamed_iff {schema : Value} :
    WellNamed schema ↔ DistinctProperties schema ∧ ∀ v ∈ walkedIn schema, WellNamed v := by
  constructor
  · intro h
    exact ⟨h schema (.self schema), fun v hv w hw => h w (.inside hv hw)⟩
  · rintro ⟨hself, hinside⟩ v hv
    cases hv with
    | self => exact hself
    | inside hu hv => exact hinside _ hu v hv

theorem wellNamed_of_not_map {v : Value} (h : v.isMap = false) : WellNamed v := by
  refine wellNamed_iff.2 ⟨?_, ?_⟩
  · rintro es rfl
    simp [Value.isMap] at h
  · rw [walkedIn_of_not_map h]
    exact fun w hw => absurd hw List.not_mem_nil

namespace WellNamed

variable {es : Entries} (h : WellNamed (.map es))
include h

theorem properties_nodup : ((mapField es "properties").map fun e => e.1.text).Nodup :=
  h (.map es) (.self _) es rfl

theorem property {e : Value × Value} (he : e ∈ mapField es "properties") : WellNamed e.2 :=
  (wellNamed_iff.1 h).2 e.2 (mem_walkedIn_property he)

theorem combined {name : String} (hname : name ∈ listKeywords) {v : Value}
    (hv : v ∈ listField es name) : WellNamed v :=
  (wellNamed_iff.1 h).2 v (mem_walkedIn_combined hname hv)

theorem additional : WellNamed (valueField es "additionalProperties") :=
  (wellNamed_iff.1 h).2 _ (mem_walkedIn_additional es)

/-- A single schema of the items of an array. -/
theorem items (hmap : (valueField es "items").isMap) : WellNamed (valueField es "items") := by
  refine (wellNamed_iff.1 h).2 _ (mem_walkedIn_items ?_)
  cases hitems : valueField es "items" with
  | map fs => exact List.mem_cons_self
  | _ => simp [hitems, Value.isMap] at hmap

end WellNamed

/-! ### It can be decided -/

theorem depth_of_mem_itemSchemas {v w : Value} (h : w ∈ itemSchemas v) : w.depth ≤ v.depth := by
  cases v with
  | list items => exact Nat.le_of_lt (Value.depth_of_mem_list h)
  | _ => exact Nat.le_of_eq (congrArg Value.depth (List.mem_singleton.1 h))

/-- A mapping that the pass goes through in a schema is less deep than it. -/
theorem depth_of_mem_walkedIn {es : Entries} {v : Value} (h : v ∈ walkedIn (.map es))
    (hmap : v.isMap) : v.depth < (Value.map es).depth := by
  have hne : es ≠ [] := by
    rintro rfl
    -- what is missing counts as null, which is no mapping
    obtain rfl : v = .null := by simpa using (show v ∈ [.null, .null] from h)
    simp [Value.isMap] at hmap
  simp only [walkedIn, List.mem_append, List.mem_cons, List.mem_map] at h
  rcases h with ((((h | h) | h) | h) | rfl | ⟨e, he, rfl⟩)
  · exact Nat.lt_of_le_of_lt (depth_of_mem_itemSchemas h) (depth_valueField hne)
  · exact depth_of_mem_listField h
  · exact depth_of_mem_listField h
  · exact depth_of_mem_listField h
  · exact depth_valueField hne
  · exact depth_of_mem_mapField he

/-- Whether a schema is well named, as far as a given number of levels shows. -/
def wellNamedWithin : Nat → Value → Bool
  | n + 1, .map es =>
    decide ((mapField es "properties").map fun e => e.1.text).Nodup &&
      (walkedIn (.map es)).all (wellNamedWithin n)
  | 0, .map _ => false
  | _, _ => true

theorem wellNamedWithin_iff {n : Nat} {v : Value} (h : v.isMap → v.depth ≤ n) :
    wellNamedWithin n v ↔ WellNamed v := by
  induction n generalizing v with
  | zero =>
    cases v with
    | map es => exact absurd (h rfl) (Nat.not_le.2 (Value.map es).depth_pos)
    | _ => exact iff_of_true rfl (wellNamed_of_not_map rfl)
  | succ n ih =>
    cases v with
    | map es =>
      have hinside : ∀ v ∈ walkedIn (.map es), (wellNamedWithin n v ↔ WellNamed v) :=
        fun v hv => ih fun hmap => by
          have hdepth := depth_of_mem_walkedIn hv hmap
          have hes := h rfl
          omega
      rw [wellNamedWithin, Bool.and_eq_true, decide_eq_true_iff, List.all_eq_true, wellNamed_iff]
      refine and_congr ⟨?_, fun h => h es rfl⟩ (forall₂_congr hinside)
      rintro hnodup _ ⟨⟩
      exact hnodup
    | _ => exact iff_of_true rfl (wellNamed_of_not_map rfl)

instance : DecidablePred WellNamed := fun v =>
  decidable_of_iff (wellNamedWithin v.depth v) (wellNamedWithin_iff fun _ => Nat.le_refl _)

end ApiTypes.Hook
