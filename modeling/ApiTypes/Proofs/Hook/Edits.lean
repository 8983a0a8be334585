import ApiTypes.Proofs.Hook.Places
import ApiTypes.Proofs.Hook.Required

/-!
# What the pass edits

The pass of a hook over an object gives back the object with a few keywords edited
(`ApiTypes.Hook.Remade`), whatever the hook remembers:

| keyword | what becomes of it |
|---|---|
| those of the schemas inside | each schema is rebuilt |
| `properties` | each property is rebuilt, and gets the type and the description of the answer |
| `required` | names are removed and added as the hook has answered |
| any other | it stays |

The schemas inside are rebuilt first, and then the hook is asked about one property after the other
(`ApiTypes.Hook.InTurn`). This is so of every pass that comes to a result
(`ApiTypes.Hook.exists_remade`), and a pass comes to one if the hook answers each of its calls. If
the properties of the object have different names, it can be said what the list of required names is
in the end and what the hook sees of each property (`ApiTypes.Hook.remade_mapSchema`).
-/

namespace ApiTypes.Hook

open Schema

variable {answer : List Call → Except Failure View} {calls calls' : List Call}
  {es properties out : Entries}

/-! ### A property -/

/-- **Nothing but the type and the description differ**, and those are what a view says. -/
structure Retyped (view : View) (es fs : Entries) : Prop where
  /-- The type. -/
  type : Entries.field? fs "type" = present? view.type
  /-- The description. -/
  description : Entries.field? fs "description" = present? view.description
  /-- The other entries, in their order. -/
  others : without ["type", "description"] fs = without ["type", "description"] es

theorem retyped_apply (view : View) (es : Entries) : Retyped view es (view.apply es) where
  type := by rw [View.apply, field?_setField, if_neg (by decide), field?_setField, if_pos rfl]
  description := by rw [View.apply, field?_setField, if_pos rfl]
  others := by rw [View.apply, without_setField (by decide), without_setField (by decide)]

theorem Retyped.field?_eq {view : View} {es fs : Entries} (h : Retyped view es fs) {name : String}
    (hname : name ∉ ["type", "description"]) :
    Entries.field? fs name = Entries.field? es name := by
  rw [← field?_without hname, h.others, field?_without hname]

/-- **What has become of a property.** -/
structure Outcome where
  /-- The key. -/
  key : Value
  /-- The property after the schemas inside of it have been rebuilt. -/
  rebuilt : Value
  /-- What the hook has answered, if it has been asked. -/
  answer? : Option View
  /-- The property in the end. -/
  result : Value

/-- **The properties are settled in turn**: each stays, or the hook is asked about it next, and it
gets what the hook answers. What the hook sees of it is as `sees` says. -/
inductive InTurn (answer : List Call → Except Failure View) (sees : Value → Entries → View → Prop) :
    List Outcome → List Call → List Call → Prop
  /-- There are none. -/
  | nil {calls : List Call} : InTurn answer sees [] calls calls
  /-- The first one is not asked about. -/
  | kept {key rebuilt : Value} {rest : List Outcome} {calls calls' : List Call} :
      asked? rebuilt = none → InTurn answer sees rest calls calls' →
      InTurn answer sees (⟨key, rebuilt, none, rebuilt⟩ :: rest) calls calls'
  /-- The first one is asked about. -/
  | answered {key rebuilt : Value} {c : Call} {fs : Entries} {view : View} {rest : List Outcome}
      {calls calls' : List Call} : asked? rebuilt = some c.property → sees key c.property c.view →
      answer (c :: calls) = .ok view → Retyped view c.property fs →
      InTurn answer sees rest (c :: calls) calls' →
      InTurn answer sees (⟨key, rebuilt, some view, .map fs⟩ :: rest) calls calls'

/-- **A property is settled**: it stays, or it gets what the hook has answered to a call. -/
inductive Outcome.Settled (answer : List Call → Except Failure View) (calls' : List Call) :
    Outcome → Prop
  /-- The hook has not been asked. -/
  | kept {key rebuilt : Value} : asked? rebuilt = none →
      Settled answer calls' ⟨key, rebuilt, none, rebuilt⟩
  /-- The hook has been asked. -/
  | answered {key rebuilt : Value} {c : Call} {before : List Call} {fs : Entries} {view : View} :
      asked? rebuilt = some c.property → c :: before <:+ calls' →
      answer (c :: before) = .ok view → Retyped view c.property fs →
      Settled answer calls' ⟨key, rebuilt, some view, .map fs⟩

/-- What the hook has answered about the optionality of some properties. -/
def answersOf (outcomes : List Outcome) : List (Text × Bool) :=
  outcomes.filterMap fun p => p.answer?.map fun view => (p.key.text, view.optional)

section InTurn

variable {sees sees' : Value → Entries → View → Prop} {outcomes : List Outcome}

theorem InTurn.suffix (h : InTurn answer sees outcomes calls calls') : calls <:+ calls' := by
  induction h with
  | nil => exact List.suffix_refl _
  | kept _ _ ih => exact ih
  | answered _ _ _ _ _ ih => exact (List.suffix_cons _ _).trans ih

theorem InTurn.imp (h : InTurn answer sees outcomes calls calls')
    (himp : ∀ p ∈ outcomes, ∀ ps view, sees p.key ps view → sees' p.key ps view) :
    InTurn answer sees' outcomes calls calls' := by
  induction h with
  | nil => exact .nil
  | kept hasked _ ih => exact .kept hasked (ih (List.forall_mem_cons.1 himp).2)
  | answered hasked hsees hanswer hretyped _ ih =>
    obtain ⟨hfirst, hrest⟩ := List.forall_mem_cons.1 himp
    exact .answered hasked (hfirst _ _ hsees) hanswer hretyped (ih hrest)

theorem InTurn.settled (h : InTurn answer sees outcomes calls calls') {p : Outcome}
    (hp : p ∈ outcomes) : p.Settled answer calls' := by
  induction h with
  | nil => exact absurd hp List.not_mem_nil
  | kept hasked _ ih =>
    rcases List.mem_cons.1 hp with rfl | hp
    · exact .kept hasked
    · exact ih hp
  | answered hasked _ hanswer hretyped hrest ih =>
    rcases List.mem_cons.1 hp with rfl | hp
    · exact .answered hasked hrest.suffix hanswer hretyped
    · exact ih hp

/-- A property is asked about if it is a mapping without a pointer. -/
theorem Outcome.Settled.isSome_answer? {p : Outcome} (h : p.Settled answer calls') :
    p.answer?.isSome = (asked? p.rebuilt).isSome := by
  cases h with
  | kept hasked => rw [hasked]; rfl
  | answered hasked => rw [hasked]; rfl

/-- So it is for the properties that have been rebuilt. -/
theorem InTurn.answered_iff (h : InTurn answer sees outcomes calls calls') {properties : Entries}
    {R : Value × Value → Outcome → Prop}
    (hrebuilt : List.Forall₂ (fun e p => R e p ∧ (asked? p.rebuilt).isSome = (asked? e.2).isSome)
      properties outcomes) :
    List.Forall₂ (fun e p => R e p ∧ p.answer?.isSome = (asked? e.2).isSome)
      properties outcomes := by
  have hasked : ∀ p ∈ outcomes, p.answer?.isSome = (asked? p.rebuilt).isSome :=
    fun p hp => (h.settled hp).isSome_answer?
  refine List.Forall₂.imp (fun e p hp => ?_)
    (List.Forall₂.flip ((List.forall₂_and_left outcomes properties).2 ⟨hasked, hrebuilt.flip⟩))
  exact ⟨hp.2.1, hp.1.trans hp.2.2⟩

end InTurn

theorem names_eq {properties : Entries} {outcomes : List Outcome}
    (h : List.Forall₂ (fun e p => p.key = e.1) properties outcomes) :
    (properties.map fun e => e.1.text) = outcomes.map fun p => p.key.text := by
  rw [← List.forall₂_eq_eq_eq, List.forall₂_map_left_iff, List.forall₂_map_right_iff]
  exact h.imp fun e p hkey => congrArg Value.text hkey.symm

theorem answersOf_sublist (outcomes : List Outcome) :
    ((answersOf outcomes).map (·.1)).Sublist (outcomes.map fun p => p.key.text) := by
  induction outcomes with
  | nil => exact .slnil
  | cons p outcomes ih =>
    obtain ⟨key, rebuilt, answer?, result⟩ := p
    cases answer? with
    | none => exact ih.cons _
    | some view => exact ih.cons_cons _

/-- **The hook is asked about the properties in turn.** If they have different names, what it sees
of one does not depend on what it has answered about the others. -/
theorem outcomes_of_mapProperties {required required' : Option (List Text)}
    {properties results : Entries}
    (h : (mapProperties (remembering answer) required properties).run calls =
      (.ok (results, required'), calls')) :
    ∃ outcomes : List Outcome, (outcomes.map fun p => (p.key, p.rebuilt)) = properties ∧
      (outcomes.map fun p => (p.key, p.result)) = results ∧
      requireAll required (answersOf outcomes) = required' ∧
      InTurn answer (fun key ps view => (properties.map fun e => e.1.text).Nodup →
        view = viewOf required key.text ps) outcomes calls calls' := by
  induction properties generalizing calls required results with
  | nil =>
    obtain ⟨hresult, rfl⟩ := Prod.mk.inj h
    obtain ⟨rfl, rfl⟩ := Prod.mk.inj (Except.ok.inj hresult)
    exact ⟨[], rfl, rfl, rfl, .nil⟩
  | cons e rest ih =>
    obtain ⟨key, property⟩ := e
    rw [mapProperties] at h
    split at h
    · next hasked =>
      obtain ⟨⟨settled, required''⟩, between, hlast, h⟩ := run_bind_kept_eq_ok h
      obtain ⟨hresult, rfl⟩ := Prod.mk.inj h
      obtain ⟨rfl, rfl⟩ := Prod.mk.inj (Except.ok.inj hresult)
      obtain ⟨outcomes, rfl, rfl, hrequired, hturn⟩ := ih hlast
      refine ⟨⟨key, property, none, property⟩ :: outcomes, rfl, rfl, hrequired,
        .kept hasked (hturn.imp fun p _ ps view hview hnodup => ?_)⟩
      exact hview (List.nodup_cons.1 hnodup).2
    · next es hasked =>
      obtain ⟨view, between, hview, h⟩ := run_bind_kept_eq_ok h
      rw [run_remembering] at hview
      obtain ⟨hanswer, rfl⟩ := Prod.mk.inj hview
      obtain ⟨⟨settled, required''⟩, between', hlast, h⟩ := run_bind_kept_eq_ok h
      obtain ⟨hresult, rfl⟩ := Prod.mk.inj h
      obtain ⟨rfl, rfl⟩ := Prod.mk.inj (Except.ok.inj hresult)
      obtain ⟨outcomes, rfl, rfl, hrequired, hturn⟩ := ih hlast
      refine ⟨⟨key, property, some view, .map (view.apply es)⟩ :: outcomes, rfl, rfl, hrequired,
        .answered hasked (fun _ => rfl) hanswer (retyped_apply view es)
          (hturn.imp fun p hp ps view hview hnodup => ?_)⟩
      obtain ⟨hkey, hrest⟩ := List.nodup_cons.1 hnodup
      -- the answer about this property does not touch the names of the others
      have hne : p.key.text ≠ key.text := fun hn =>
        hkey (List.mem_map.2 ⟨(p.key, p.rebuilt), List.mem_map_of_mem hp, hn⟩)
      rw [hview hrest, viewOf_congr (mem_require_of_ne hne _)]

/-! ### A schema -/

/-- The keywords that the pass may write. -/
def editedKeywords : List String := "properties" :: "required" :: innerKeywords

/-- **A schema with properties after the pass**, all but its required names. The schemas inside
are rebuilt first, and then the hook is asked. -/
structure Remade (answer : List Call → Except Failure View) (sees : Value → Entries → View → Prop)
    (calls between calls' : List Call) (es properties out : Entries) (outcomes : List Outcome) :
    Prop where
  /-- The properties are the same ones in the same order, each of them rebuilt, and those that
  are mappings without a pointer are asked about. -/
  rebuilt : List.Forall₂ (fun e p => p.key = e.1 ∧
    Meanwhile calls between (mapSchema (remembering answer) e.2) p.rebuilt ∧
    p.answer?.isSome = (asked? e.2).isSome) properties outcomes
  /-- They are asked about in turn. -/
  inTurn : InTurn answer sees outcomes between calls'
  /-- They are written in that order. -/
  properties : Entries.field? out "properties" =
    some (.map (outcomes.map fun p => (p.key, p.result)))
  /-- The schemas in other places are rebuilt. -/
  inside : ∀ place ∈ places,
    RebuiltIn (fun v w => Meanwhile calls between (mapSchema (remembering answer) v) w) place
      (Entries.field? es place.name) (Entries.field? out place.name)
  /-- The keys stay in their order, and the required names may get a key behind them. -/
  keys : out.map (·.1) = es.map (·.1) ++
    if (Entries.field? es "required").isNone ∧ (Entries.field? out "required").isSome
    then [.str "required"] else []
  /-- Everything else stays. -/
  others : without editedKeywords out = without editedKeywords es

theorem Remade.imp {sees sees' : Value → Entries → View → Prop} {between : List Call}
    {outcomes : List Outcome}
    (h : Remade answer sees calls between calls' es properties out outcomes)
    (himp : ∀ key ps view, sees key ps view → sees' key ps view) :
    Remade answer sees' calls between calls' es properties out outcomes :=
  { h with inTurn := h.inTurn.imp fun p _ => himp p.key }

section Settled

variable (inner : Inner) (es : Entries) (outcome : Entries × Option (List Text))

theorem field?_settled_properties :
    Entries.field? (settled inner es outcome) "properties" = some (.map outcome.1) := by
  rw [settled, field?_replaceField_of_ne (by decide), Entries.field?_insert, if_pos rfl]

theorem field?_settled_required :
    Entries.field? (settled inner es outcome) "required" =
      (outcome.2.map namesValue).or (Entries.field? es "required") := by
  rw [settled, field?_replaceField, if_pos rfl, Entries.field?_insert, if_neg (by decide),
    field?_write_of_not_mem (by decide)]

theorem field?_settled_of_ne {name : String} (hp : name ≠ "properties") (hr : name ≠ "required") :
    Entries.field? (settled inner es outcome) name = Entries.field? (inner.write es) name := by
  rw [settled, field?_replaceField_of_ne hr, Entries.field?_insert, if_neg hp]

theorem field?_settled_of_place {place : Place} (h : place ∈ places) :
    Entries.field? (settled inner es outcome) place.name =
      Entries.field? (inner.write es) place.name := by
  have hne : place.name ≠ "properties" ∧ place.name ≠ "required" := by
    revert h place
    decide
  exact field?_settled_of_ne inner es outcome hne.1 hne.2

theorem without_write : without editedKeywords (inner.write es) = without editedKeywords es := by
  simp only [Inner.write]
  rw [without_replaceField (by decide), without_replaceField (by decide),
    without_replaceField (by decide), without_replaceField (by decide),
    without_replaceField (by decide)]

theorem without_settled :
    without editedKeywords (settled inner es outcome) = without editedKeywords es := by
  rw [settled, without_replaceField (by decide), without_insert (by decide), without_write]

theorem keys_settled (hprops : (Entries.field? es "properties").isSome)
    (hkeys : (inner.write es).map (·.1) = es.map (·.1)) :
    (settled inner es outcome).map (·.1) = es.map (·.1) ++
      if (Entries.field? es "required").isNone ∧
        (Entries.field? (settled inner es outcome) "required").isSome
      then [.str "required"] else [] := by
  have hwritten : (Entries.insert (.str "properties") (.map outcome.1) (inner.write es)).map (·.1) =
      es.map (·.1) := by
    rw [keys_insert, field?_write_of_not_mem (by decide), if_pos hprops, List.append_nil, hkeys]
  have hrequired : Entries.field? (Entries.insert (.str "properties") (.map outcome.1)
      (inner.write es)) "required" = Entries.field? es "required" := by
    rw [Entries.field?_insert, if_neg (by decide), field?_write_of_not_mem (by decide)]
  rw [field?_settled_required, settled]
  cases outcome.2 with
  | none =>
    rw [Option.map_none, replaceField, hwritten, Option.none_or]
    cases Entries.field? es "required" <;> simp
  | some names =>
    rw [Option.map_some, replaceField, keys_insert, hwritten, hrequired]
    cases Entries.field? es "required" <;> rfl

end Settled

/-- **The pass over a mapping, by its parts.** -/
theorem parts_of_run {w : Value}
    (h : (mapSchema (remembering answer) (.map es)).run calls = (.ok w, calls')) :
    ∃ inner between, (rebuildInner (mapSchema (remembering answer)) es).run calls =
        (.ok inner, between) ∧
      ((∃ properties rebuilt between' outcome,
          Entries.field? es "properties" = some (.map properties) ∧
          (rebuildProperties (mapSchema (remembering answer)) properties).run between =
            (.ok rebuilt, between') ∧
          (mapProperties (remembering answer) (requiredOf es) rebuilt).run between' =
            (.ok outcome, calls') ∧
          w = .map (settled inner es outcome)) ∨
        (∀ properties, Entries.field? es "properties" ≠ some (.map properties)) ∧
          between = calls' ∧ w = .map (inner.write es)) := by
  rw [mapSchema_map, rebuildLevel_eq] at h
  obtain ⟨out, last, hlevel, hlast⟩ := run_bind_kept_eq_ok h
  obtain ⟨hw, rfl⟩ := Prod.mk.inj hlast
  obtain rfl : Value.map out = w := Except.ok.inj hw
  obtain ⟨inner, between, hinner, h⟩ := run_bind_kept_eq_ok hlevel
  refine ⟨inner, between, hinner, ?_⟩
  split at h
  · next properties hprops =>
    obtain ⟨rebuilt, between', hrebuilt, h⟩ := run_bind_kept_eq_ok h
    obtain ⟨outcome, last', hmapped, h⟩ := run_bind_kept_eq_ok h
    obtain ⟨hout, rfl⟩ := Prod.mk.inj h
    obtain rfl := Except.ok.inj hout
    exact .inl ⟨properties, rebuilt, between', outcome, hprops, hrebuilt, hmapped, rfl⟩
  · next hprops =>
    obtain ⟨hout, rfl⟩ := Prod.mk.inj h
    obtain rfl := Except.ok.inj hout
    exact .inr ⟨hprops, rfl, rfl⟩

/-- A keyword that the pass does not write has its value after it. -/
theorem field?_of_run {name : String} (hname : name ∉ editedKeywords) {w : Value}
    (h : (mapSchema (remembering answer) (.map es)).run calls = (.ok w, calls')) :
    ∃ out, w = .map out ∧ Entries.field? out name = Entries.field? es name := by
  obtain ⟨inner, between, -, h⟩ := parts_of_run h
  simp only [editedKeywords, List.mem_cons, not_or] at hname
  have hwrite := field?_write_of_not_mem hname.2.2 inner es
  rcases h with ⟨properties, rebuilt, between', outcome, -, -, -, rfl⟩ | ⟨-, -, rfl⟩
  · exact ⟨_, rfl, (field?_settled_of_ne inner es outcome hname.1 hname.2.1).trans hwrite⟩
  · exact ⟨_, rfl, hwrite⟩

/-- The schemas outside of the properties are rebuilt, whether there are properties or not. -/
theorem inside_of_run {w : Value}
    (h : (mapSchema (remembering answer) (.map es)).run calls = (.ok w, calls')) :
    ∃ out, w = .map out ∧ ∀ place ∈ places,
      RebuiltIn (fun v w => Meanwhile calls calls' (mapSchema (remembering answer) v) w) place
        (Entries.field? es place.name) (Entries.field? out place.name) := by
  obtain ⟨inner, between, hinner, h⟩ := parts_of_run h
  obtain ⟨hinside, -⟩ := rebuiltIn_of_rebuildInner onlyAsks_mapSchema hinner
  rcases h with ⟨properties, rebuilt, between', outcome, -, hrebuilt, hmapped, rfl⟩ | ⟨-, rfl, rfl⟩
  · have hgrows := (onlyAsks_rebuildProperties onlyAsks_mapSchema properties).of_run hrebuilt
    have hlast := (onlyAsks_mapProperties _ _).of_run hmapped
    refine ⟨_, rfl, fun place hplace => ?_⟩
    rw [field?_settled_of_place inner es _ hplace]
    exact (hinside place hplace).imp fun v w hmade =>
      hmade.mono (List.suffix_refl _) (hgrows.trans hlast)
  · exact ⟨_, rfl, hinside⟩

/-- The pass does not change whether a hook is asked about a property. -/
theorem isSome_asked?_of_run {v w : Value}
    (h : (mapSchema (remembering answer) v).run calls = (.ok w, calls')) :
    (asked? w).isSome = (asked? v).isSome := by
  by_cases hmap : v.isMap
  · cases v with
    | map es =>
      obtain ⟨out, rfl, href⟩ := field?_of_run (show "$ref" ∉ editedKeywords by decide) h
      rw [asked?, asked?, href]
      split <;> rfl
    | _ => simp [Value.isMap] at hmap
  · rw [mapSchema_of_not_map (by simpa using hmap)] at h
    obtain rfl : v = w := Except.ok.inj (Prod.mk.inj h).1
    rfl

/-- The properties are rebuilt one after the other. -/
theorem meanwhile_rebuildProperties {rebuilt : Entries}
    (h : (rebuildProperties (mapSchema (remembering answer)) properties).run calls =
      (.ok rebuilt, calls')) :
    List.Forall₂ (fun e e' => e'.1 = e.1 ∧
      Meanwhile calls calls' (mapSchema (remembering answer) e.2) e'.2 ∧
      (asked? e'.2).isSome = (asked? e.2).isSome) properties rebuilt := by
  have hgrows : ∀ e : Value × Value,
      OnlyAsks answer (do pure (e.1, ← mapSchema (remembering answer) e.2) : Remembering _) :=
    fun e => (onlyAsks_mapSchema e.2).bind fun _ => onlyAsks_pure _
  refine (meanwhile_mapM hgrows h).imp fun e e' hmade => ?_
  obtain ⟨before, after, hbefore, hrun, hafter⟩ := hmade
  obtain ⟨w, last, hw, hlast⟩ := run_bind_kept_eq_ok hrun
  obtain ⟨he, rfl⟩ := Prod.mk.inj hlast
  obtain rfl := Except.ok.inj he
  exact ⟨rfl, ⟨before, last, hbefore, hw, hafter⟩, isSome_asked?_of_run hw⟩

/-- **The pass over a schema with properties**, whatever their names are. -/
theorem exists_remade {w : Value}
    (hprops : Entries.field? es "properties" = some (.map properties))
    (h : (mapSchema (remembering answer) (.map es)).run calls = (.ok w, calls')) :
    ∃ out outcomes between, w = .map out ∧ calls <:+ between ∧
      Remade answer (fun key ps view => (properties.map fun e => e.1.text).Nodup →
        view = viewOf (requiredOf es) key.text ps) calls between calls' es properties out outcomes ∧
      Entries.field? out "required" =
        ((requireAll (requiredOf es) (answersOf outcomes)).map namesValue).or
          (Entries.field? es "required") := by
  obtain ⟨inner, calls₁, hinner, h | ⟨hnone, -⟩⟩ := parts_of_run h
  swap
  · exact absurd hprops (hnone properties)
  obtain ⟨properties', rebuilt, calls₂, ⟨results, required'⟩, hprops', hrebuilt, hmapped, rfl⟩ := h
  obtain rfl : properties = properties' := by simpa [hprops] using hprops'
  obtain ⟨outcomes, rfl, rfl, rfl, hturn⟩ := outcomes_of_mapProperties hmapped
  have hgrows := (onlyAsks_rebuildInner onlyAsks_mapSchema es).of_run hinner
  have hgrows' := (onlyAsks_rebuildProperties onlyAsks_mapSchema properties).of_run hrebuilt
  obtain ⟨hinside, hkeys⟩ := rebuiltIn_of_rebuildInner onlyAsks_mapSchema hinner
  have hmade := List.forall₂_map_right_iff.1 (meanwhile_rebuildProperties hrebuilt)
  have hnames := names_eq (hmade.imp fun e p hp => hp.1)
  refine ⟨_, outcomes, calls₂, rfl, hgrows.trans hgrows', ⟨?rebuilt, ?inTurn,
    field?_settled_properties inner es _, fun place hplace => ?inside,
    keys_settled inner es _ (hprops ▸ rfl) hkeys, without_settled inner es _⟩,
    field?_settled_required inner es _⟩
  case rebuilt =>
    refine (hturn.answered_iff (hmade.imp fun e p hp => and_assoc.2 hp)).imp fun e p hp => ?_
    obtain ⟨⟨hkey, hmade⟩, hsome⟩ := hp
    exact ⟨hkey, hmade.mono hgrows (List.suffix_refl _), hsome⟩
  case inTurn =>
    refine hturn.imp fun p _ ps view hview hnodup => hview ?_
    rw [List.map_map]
    rwa [hnames] at hnodup
  case inside =>
    rw [field?_settled_of_place inner es _ hplace]
    exact (hinside place hplace).imp fun v w hmade => hmade.mono (List.suffix_refl _) hgrows'

/-- **What the pass makes of a schema whose properties have different names**, if the hook
answers: it edits the properties, the required names and the schemas inside, and nothing else. What
it makes of the schemas inside is what it makes of them by themselves, with the same hook, and so
the same is true of them in turn, and of all schemas that the pass goes through
(`ApiTypes.Hook.meanwhile_of_walked`). -/
theorem remade_mapSchema (hprops : Entries.field? es "properties" = some (.map properties))
    (hnames : (properties.map fun e => e.1.text).Nodup)
    (hanswers : Answers answer calls ((mapSchema (remembering answer) (.map es)).run calls).2) :
    ∃ out outcomes between calls',
      (mapSchema (remembering answer) (.map es)).run calls = (.ok (.map out), calls') ∧
      calls <:+ between ∧
      Remade answer (fun key ps view => view = viewOf (requiredOf es) key.text ps)
        calls between calls' es properties out outcomes ∧
      Entries.field? out "required" =
        ((requiredAfter (requiredOf es) (answersOf outcomes)).map namesValue).or
          (Entries.field? es "required") := by
  obtain ⟨w, hrun⟩ := (onlyAsks_mapSchema (.map es)).exists_of_answers hanswers
  obtain ⟨out, outcomes, between, rfl, hbetween, hremade, hrequired⟩ := exists_remade hprops hrun
  refine ⟨out, outcomes, between, _, hrun, hbetween,
    hremade.imp fun key ps view hview => hview hnames, ?_⟩
  rw [names_eq (hremade.rebuilt.imp fun e p hp => hp.1)] at hnames
  rw [hrequired, requireAll_eq ((answersOf_sublist outcomes).nodup hnames)]

/-- A hook that finds the first property that it is asked about optional and the others not, and
gives them all one description: of the names that are required at first one goes, though it is there
twice, and another one comes last. -/
theorem remade_secondRequired :
    let answer : List Call → Except Failure View :=
      fun calls => .ok ⟨.null, calls.length = 1, .str "A part."⟩
    let properties : Entries := [(.str "id", .map [(.str "type", .str "string")]),
      (.str "owner", .map [(.str "$ref", .str "#/definitions/User")]),
      (.int 2, .map [(.str "items", .map [(.str "enum", .list [.str "id"])])])]
    let es : Entries := [(.str "required", .list [.str "id", .bool true, .null, .str "id"]),
      (.str "properties", .map properties), (.str "example", .map [(.str "properties", .null)])]
    (properties.map fun e => e.1.text).Nodup ∧
      Answers answer [] ((mapSchema (remembering answer) (.map es)).run []).2 ∧
      ∃ out outcomes between calls',
        (mapSchema (remembering answer) (.map es)).run [] = (.ok (.map out), calls') ∧
        [] <:+ between ∧
        Remade answer (fun key ps view => view = viewOf (requiredOf es) key.text ps)
          [] between calls' es properties out outcomes ∧
        Entries.field? out "required" =
          ((requiredAfter (requiredOf es) (answersOf outcomes)).map namesValue).or
            (Entries.field? es "required") := by
  intro answer properties es
  have hnames : (properties.map fun e => e.1.text).Nodup := by decide +kernel
  have hanswers : Answers answer [] ((mapSchema (remembering answer) (.map es)).run []).2 :=
    fun _ _ _ _ => ⟨_, rfl⟩
  exact ⟨hnames, hanswers, remade_mapSchema rfl hnames hanswers⟩

/-! ### All schemas -/

theorem mapField_eq_nil {name : String}
    (h : ∀ entries, Entries.field? es name ≠ some (.map entries)) : mapField es name = [] := by
  rw [mapField]
  cases hfield : Entries.field? es name with
  | none => rfl
  | some v =>
    cases v with
    | map entries => exact absurd hfield (h entries)
    | _ => rfl

theorem meanwhile_of_mem_walkedIn {v w : Value}
    (h : (mapSchema (remembering answer) (.map es)).run calls = (.ok w, calls'))
    (hv : v ∈ walkedIn (.map es)) (hmap : v.isMap) :
    ∃ x, Meanwhile calls calls' (mapSchema (remembering answer) v) x := by
  rcases (mem_walkedIn_iff hmap).1 hv with ⟨place, hplace, hv⟩ | ⟨e, he, rfl⟩
  · obtain ⟨out, -, hinside⟩ := inside_of_run h
    exact (hinside place hplace).exists_rebuilt hv
  · obtain ⟨properties, hprops⟩ : ∃ p, Entries.field? es "properties" = some (.map p) := by
      by_contra hnone
      rw [mapField_eq_nil (not_exists.1 hnone)] at he
      exact absurd he List.not_mem_nil
    have hfield : mapField es "properties" = properties := by rw [mapField, hprops]; rfl
    obtain ⟨out, outcomes, between, -, -, hremade, -⟩ := exists_remade hprops h
    obtain ⟨p, -, -, hmade, -⟩ := exists_of_mem_forall₂ hremade.rebuilt.flip (hfield ▸ he)
    exact ⟨p.rebuilt, hmade.mono (List.suffix_refl _) hremade.inTurn.suffix⟩

/-- **The pass rebuilds each schema that it goes through**, down to any depth. -/
theorem meanwhile_of_walked {root v w : Value}
    (h : (mapSchema (remembering answer) root).run calls = (.ok w, calls'))
    (hwalked : Walked root v) (hmap : v.isMap) :
    ∃ x, Meanwhile calls calls' (mapSchema (remembering answer) v) x := by
  induction hwalked generalizing calls calls' w with
  | self => exact ⟨w, meanwhile_of_run h⟩
  | @inside schema u v hu hv ih =>
    cases schema with
    | map es =>
      obtain ⟨x, before, after, hbefore, hrun, hafter⟩ :=
        meanwhile_of_mem_walkedIn h hu (hv.isMap hmap)
      obtain ⟨y, hy⟩ := ih hrun hmap
      exact ⟨y, hy.mono hbefore hafter⟩
    | _ => exact absurd hu List.not_mem_nil

end ApiTypes.Hook
