import ApiTypes.Proofs.Hook.Questions
import ApiTypes.Proofs.Schema.Rendered

/-!
# What is rendered has been asked about

The pass and the types go through a schema by different rules: the pass goes through all that
stands in the places of schemas, the types through what the category of a schema calls for. All
schemas in which there is something to render are among those that the pass goes through
(`ApiTypes.Hook.walked_of_rendered`).

Types are made of the schemas after the pass, and in these the types and the descriptions are
those that the hook has answered with, so their categories need not be those of before. Still,
each schema that is rendered has been made by the pass from one that it has gone through
(`ApiTypes.Hook.Made`). So each property in it, if it is a mapping without a pointer, is one that
the hook has been asked about (`ApiTypes.Hook.Made.covered`).
-/

namespace ApiTypes.Hook

open Schema

variable {answer : List Call → Except Failure View} {calls calls' : List Call}
  {es out : Entries} {root v w : Value} {d : Dialect}

/-! ### The schemas that are rendered -/

/-- Nothing is rendered in what is no mapping. -/
theorem Node.children_of_not_map (h : v.isMap = false) : (Node.ofValue v).children = [] := by
  cases v with
  | map es => simp [Value.isMap] at h
  | _ => rfl

/-- Where a mapping is rendered, it is so in mappings only. -/
theorem isMap_of_rendered (h : Rendered d v w) (hmap : w.isMap) : v.isMap := by
  cases h with
  | self => exact hmap
  | inside hu _ =>
    have hu := Node.mem_children_of_rendered hu
    cases hv : v.isMap with
    | true => rfl
    | false =>
      rw [Node.children_of_not_map hv] at hu
      exact absurd hu List.not_mem_nil

/-- The shape of an object is that of a mapping. -/
theorem exists_of_shape_object {properties : Entries} {required : List Text} {allOf : List Value}
    {additional : Value}
    (h : (Node.ofValue v).shape = .object properties required allOf additional) :
    ∃ es, v = .map es ∧ properties = mapField es "properties" := by
  cases v with
  | map es =>
    rw [Node.ofValue] at h
    cases hc : classify (.map es) with
    | object =>
      simp only [hc, Shape.ofEntries] at h
      injection h with hproperties
      exact ⟨es, rfl, hproperties.symm⟩
    | _ => simp [hc, Shape.ofEntries] at h
  | _ => simp [Node.ofValue] at h

/-- A mapping in a node is one that the pass goes through. -/
theorem mem_walkedIn_of_children (h : w ∈ (Node.ofValue v).children) (hmap : w.isMap) :
    w ∈ walkedIn v := by
  cases v with
  | map es =>
    simp only [Node.ofValue, Node.children] at h
    cases hc : classify (.map es) with
    | array =>
      simp only [hc, Shape.ofEntries, List.mem_singleton] at h
      refine mem_walkedIn_items ?_
      rw [← h]
      cases w with
      | map fs => exact List.mem_cons_self
      | _ => simp [Value.isMap] at hmap
    | object =>
      simp only [hc, Shape.ofEntries, List.mem_append, List.mem_map] at h
      rcases h with (⟨e, he, rfl⟩ | h) | h
      · exact mem_walkedIn_property he
      · exact mem_walkedIn_combined (by decide) h
      · by_cases ha : hasAdditional (valueField es "additionalProperties")
        · rw [if_pos ha, List.mem_singleton] at h
          exact h ▸ mem_walkedIn_additional es
        · simp [ha] at h
    | anyOf =>
      simp only [hc, Shape.ofEntries] at h
      exact mem_walkedIn_combined (by decide) h
    | oneOf =>
      simp only [hc, Shape.ofEntries] at h
      exact mem_walkedIn_combined (by decide) h
    | _ => simp [hc, Shape.ofEntries] at h
  | _ => simp [Node.ofValue, Node.children] at h

/-- **The pass goes through all mappings that are rendered.** -/
theorem walked_of_rendered (h : Rendered d v w) (hmap : w.isMap) : Walked v w := by
  induction h with
  | self => exact .self _
  | inside hu hw ih =>
    have hchild := Node.mem_children_of_rendered hu
    exact .inside (mem_walkedIn_of_children hchild (isMap_of_rendered hw hmap)) (ih hmap)

/-- There is a question about each property that is rendered before the pass, too. -/
theorem exists_question_of_rendered (h : Rendered d v w) {properties : Entries}
    {required : List Text} {allOf : List Value} {additional : Value}
    (hshape : (Node.ofValue w).shape = .object properties required allOf additional)
    {e : Value × Value} (he : e ∈ properties) {property : Entries}
    (hasked : asked? e.2 = some property) :
    ∃ q ∈ questions v, q.key = e.1 ∧ q.property = property := by
  obtain ⟨es, rfl, rfl⟩ := exists_of_shape_object hshape
  have hmem : Question.mk es e.1 property ∈ ask es (mapField es "properties") :=
    mem_ask_iff.2 ⟨e.2, he, hasked, rfl⟩
  exact ⟨_, mem_questions_iff.2 ⟨es, walked_of_rendered h rfl, hmem⟩, rfl, rfl⟩

/-! ### The schemas after the pass -/

/-- The type and the description of a mapping may have been replaced. -/
inductive UpToView : Value → Value → Prop
  /-- They have not. -/
  | same (v : Value) : UpToView v v
  /-- They have been replaced by those of a view. -/
  | retyped {view : View} {es fs : Entries} : Retyped view es fs → UpToView (.map es) (.map fs)

theorem Retyped.valueField_eq {view : View} {es fs : Entries} (h : Retyped view es fs)
    {name : String} (hname : name ∉ ["type", "description"]) :
    valueField fs name = valueField es name := by
  rw [valueField, h.field?_eq hname, ← valueField]

/-- What stands in a schema does not depend on its type and its description. -/
theorem UpToView.walkedIn_eq (h : UpToView v w) : walkedIn w = walkedIn v := by
  cases h with
  | same => rfl
  | retyped h =>
    simp only [walkedIn, listField_eq, mapField_eq, h.valueField_eq (by decide : "items" ∉ _),
      h.valueField_eq (by decide : "allOf" ∉ _), h.valueField_eq (by decide : "oneOf" ∉ _),
      h.valueField_eq (by decide : "anyOf" ∉ _), h.valueField_eq (by decide : "properties" ∉ _),
      h.valueField_eq (by decide : "additionalProperties" ∉ _)]

/-- The properties of a schema do not depend on its type and its description. -/
theorem UpToView.exists_of_map {fs : Entries} (h : UpToView v (.map fs)) :
    ∃ es, v = .map es ∧ mapField fs "properties" = mapField es "properties" := by
  cases h with
  | same => exact ⟨fs, rfl, rfl⟩
  | retyped h =>
    exact ⟨_, rfl, by rw [mapField_eq, mapField_eq, h.valueField_eq (by decide)]⟩

/-- **A schema has been made** by the pass over another one: from a schema in that one, and its
type and its description may have been replaced afterwards. -/
def Made (answer : List Call → Except Failure View) (calls : List Call) (root w : Value) : Prop :=
  ∃ v rebuilt, Walked root v ∧ Meanwhile [] calls (mapSchema (remembering answer) v) rebuilt ∧
    UpToView rebuilt w

/-- Mappings stay mappings, and nothing else becomes one. -/
theorem isMap_of_run (h : (mapSchema (remembering answer) v).run calls = (.ok w, calls')) :
    w.isMap = v.isMap := by
  cases v with
  | map es =>
    obtain ⟨out, rfl, -⟩ := inside_of_run h
    rfl
  | _ =>
    rw [mapSchema_of_not_map rfl] at h
    rw [← Except.ok.inj (Prod.mk.inj h).1]

/-- A property after the pass is the outcome of one of before. -/
theorem exists_outcome_of_run
    (h : (mapSchema (remembering answer) (.map es)).run calls = (.ok (.map out), calls'))
    {e : Value × Value} (he : e ∈ mapField out "properties") :
    ∃ (v : Value) (p : Outcome), (e.1, v) ∈ mapField es "properties" ∧ p.result = e.2 ∧
      Meanwhile calls calls' (mapSchema (remembering answer) v) p.rebuilt ∧
      p.Settled answer calls' := by
  by_cases hprops : ∃ properties, Entries.field? es "properties" = some (.map properties)
  · obtain ⟨properties, hprops⟩ := hprops
    obtain ⟨out', outcomes, between, hout, -, hremade, -⟩ := exists_remade hprops h
    obtain rfl := Value.map.inj hout
    have hfield : mapField out "properties" = outcomes.map fun p => (p.key, p.result) := by
      rw [mapField, hremade.properties]
      rfl
    rw [hfield] at he
    obtain ⟨p, hp, rfl⟩ := List.mem_map.1 he
    obtain ⟨e₀, he₀, hkey, hmade, -⟩ := exists_of_mem_forall₂ hremade.rebuilt hp
    refine ⟨e₀.2, p, ?_, rfl, hmade.mono (List.suffix_refl _) hremade.inTurn.suffix,
      hremade.inTurn.settled hp⟩
    rw [mapField, hprops, hkey]
    exact he₀
  · exfalso
    obtain ⟨inner, between, -, h⟩ := parts_of_run h
    rcases h with ⟨properties, rebuilt, between', outcome, hmap, -⟩ | ⟨hnone, -, hout⟩
    · exact hprops ⟨properties, hmap⟩
    · rw [Value.map.inj hout, mapField, field?_write_of_not_mem (by decide), ← mapField,
        mapField_eq_nil hnone] at he
      exact absurd he List.not_mem_nil

/-- **What stands in a schema that has been made has been made, too.** -/
theorem Made.of_mem_walkedIn (h : Made answer calls root v) (hw : w ∈ walkedIn v)
    (hmap : w.isMap) : Made answer calls root w := by
  obtain ⟨u, rebuilt, hwalked, ⟨before, after, hbefore, hrun, hafter⟩, hview⟩ := h
  rw [hview.walkedIn_eq] at hw
  cases hu : u.isMap with
  | false =>
    -- what is no mapping is left as it is, and there is nothing in it
    rw [mapSchema_of_not_map hu] at hrun
    rw [← Except.ok.inj (Prod.mk.inj hrun).1, walkedIn_of_not_map hu] at hw
    exact absurd hw List.not_mem_nil
  | true =>
    obtain ⟨es, rfl⟩ := exists_of_isMap hu
    obtain ⟨out, rfl, hinside⟩ := inside_of_run hrun
    rcases (mem_walkedIn_iff hmap).1 hw with ⟨place, hplace, hw⟩ | ⟨e, he, rfl⟩
    · have hkind : ∀ {x w : Value}, Meanwhile before after (mapSchema (remembering answer) x) w →
          w.isMap = x.isMap := fun ⟨_, _, _, hrun, _⟩ => isMap_of_run hrun
      obtain ⟨x, hx, hmade⟩ := (hinside place hplace).exists_of_mem (fun _ _ => hkind) hw
      have hx := (mem_walkedIn_iff (hkind hmade ▸ hmap)).2 (.inl ⟨place, hplace, hx⟩)
      exact ⟨x, w, hwalked.snoc hx, hmade.mono hbefore hafter, .same w⟩
    · obtain ⟨x, p, hx, hresult, hmade, hsettled⟩ := exists_outcome_of_run hrun he
      refine ⟨x, p.rebuilt, hwalked.snoc (mem_walkedIn_property hx), hmade.mono hbefore hafter, ?_⟩
      cases hsettled with
      | kept hasked => exact hresult ▸ .same _
      | answered hasked hcall hanswer hretyped =>
        obtain rfl := eq_map_of_asked? hasked
        exact hresult ▸ .retyped hretyped

/-- **All that the pass goes through in a schema that has been made has been made.** -/
theorem Made.of_walked (h : Made answer calls root v) (hw : Walked v w) (hmap : w.isMap) :
    Made answer calls root w := by
  induction hw with
  | self => exact h
  | inside hu hw ih => exact ih (h.of_mem_walkedIn hu (hw.isMap hmap)) hmap

/-! ### The properties that are rendered -/

/-- **A hook has been asked about all that is rendered** of a schema that the pass over another
schema has made: for each property of a rendered object that is a mapping without a pointer there
is a question of the other schema about it, and a call with that property after its insides have
been rebuilt, and the property is what the call has been about, with the type and the description
of the answer. -/
def Covered (answer : List Call → Except Failure View) (calls : List Call) (root schema : Value) :
    Prop :=
  ∀ d w, Rendered d schema w → ∀ properties required allOf additional,
    (Node.ofValue w).shape = .object properties required allOf additional →
    ∀ e ∈ properties, ∀ fs, asked? e.2 = some fs →
      ∃ q ∈ questions root, ∃ c before view, q.key = e.1 ∧
        Meanwhile [] calls (mapSchema (remembering answer) (.map q.property)) (.map c.property) ∧
        c :: before <:+ calls ∧ answer (c :: before) = .ok view ∧ Retyped view c.property fs

theorem Made.covered (h : Made answer calls root v) : Covered answer calls root v := by
  intro d w hrendered properties required allOf additional hshape e he fs hasked
  obtain ⟨gs, rfl, rfl⟩ := exists_of_shape_object hshape
  obtain ⟨u, rebuilt, hwalked, ⟨before, after, -, hrun, hafter⟩, hview⟩ :=
    h.of_walked (walked_of_rendered hrendered rfl) rfl
  obtain ⟨out, rfl, hprops⟩ := hview.exists_of_map
  rw [hprops] at he
  obtain ⟨es, rfl⟩ := exists_of_isMap (isMap_of_run hrun).symm
  obtain ⟨x, p, hx, hresult, ⟨first, last, -, hmade, hlast⟩, hsettled⟩ :=
    exists_outcome_of_run hrun he
  cases hsettled with
  | kept hnot =>
    rw [← hresult, hnot] at hasked
    exact nomatch hasked
  | @answered key rebuilt c earlier fs' view hps hcall hanswer hretyped =>
    obtain ⟨property, hx'⟩ :=
      Option.isSome_iff_exists.1 ((isSome_asked?_of_run hmade).symm.trans (hps ▸ rfl))
    obtain rfl := eq_map_of_asked? hx'
    obtain rfl := eq_map_of_asked? hps
    have hq : Question.mk es e.1 property ∈ questions root :=
      mem_questions_iff.2 ⟨es, hwalked, mem_ask_iff.2 ⟨_, hx, hx', rfl⟩⟩
    have hfs : fs' = fs := Value.map.inj (hresult.trans (eq_map_of_asked? hasked))
    exact ⟨_, hq, c, earlier, view, rfl, ⟨first, last, List.nil_suffix, hmade, hlast.trans hafter⟩,
      hcall.trans hafter, hanswer, hfs ▸ hretyped⟩

/-- **The calls of the pass**, from the first one on, with a hook that may remember them and may
refuse any: they are the questions of the schemas, one schema after the other. If the hook refuses
one, the calls end with it and its refusal is the result. If it answers them all, there are schemas
after the pass, and the hook has been asked about all that is rendered of them. -/
theorem calls_mapSchemas (answer : List Call → Except Failure View) (schemas : Entries) :
    match (mapSchemas (remembering answer) schemas).run [] with
    | (.error e, calls) => Refused answer e (schemas.flatMap fun s => questions s.2) [] calls
    | (.ok mapped, calls) => Heard answer (schemas.flatMap fun s => questions s.2) [] calls ∧
        List.Forall₂ (fun s s' => s'.1 = s.1 ∧ Covered answer calls s.2 s'.2) schemas mapped := by
  have hfollows : FollowsFrom answer _ _ _ := followsFrom_mapSchemas schemas []
  unfold FollowsFrom at hfollows
  rcases hrun : (mapSchemas (remembering answer) schemas).run [] with ⟨r, calls⟩
  rw [hrun] at hfollows
  cases r with
  | error e => exact hfollows
  | ok mapped =>
    -- the schemas are gone through as properties are
    have hmade : List.Forall₂ _ schemas mapped := meanwhile_rebuildProperties hrun
    exact ⟨hfollows, hmade.imp fun s s' h =>
      ⟨h.1, Made.covered ⟨s.2, s'.2, .self _, h.2.1, .same _⟩⟩⟩

end ApiTypes.Hook
