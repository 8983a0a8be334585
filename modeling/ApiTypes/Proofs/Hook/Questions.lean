import ApiTypes.Proofs.Hook.Edits

/-!
# The questions of the pass

Which properties a hook is asked about, and in which order, is known before it is asked: the
questions of a schema (`ApiTypes.Hook.questions`) are read off the schema as it is written. They
are those of the schemas inside of it, in the order in which the pass goes through them, and then
one about each property of its own that is a mapping without a pointer
(`ApiTypes.Hook.questions_map`).

The calls of a pass are these questions, one after the other (`ApiTypes.Hook.Heard`), and if the
hook refuses one of them, no other one follows (`ApiTypes.Hook.Refused`). What the hook is given
with a question has been made in the meantime (`ApiTypes.Hook.Asks`): the schemas inside of the
property are rebuilt already, while its type, its description and whether it is optional are what
they have been at first.

| part of the pass | its calls are its questions |
|---|---|
| the places outside of the properties | `ApiTypes.Hook.followsFrom_rebuildInner` |
| the insides of the properties | `ApiTypes.Hook.followsFrom_rebuildProperties` |
| the properties | `ApiTypes.Hook.followsFrom_mapProperties` |
| a schema | `ApiTypes.Hook.followsFrom_mapSchema` |
-/

namespace ApiTypes.Hook

open Schema

variable {answer : List Call → Except Failure View} {calls calls' : List Call} {es : Entries}

/-! ### The questions -/

/-- **A question about a property.** -/
structure Question where
  /-- The schema that the property is one of. -/
  object : Entries
  /-- The key of the property. -/
  key : Value
  /-- The property. -/
  property : Entries

/-- The questions about some properties of a schema. -/
def ask (object properties : Entries) : List Question :=
  properties.filterMap fun e => (asked? e.2).map fun property => ⟨object, e.1, property⟩

/-- The questions of a schema, down to a given number of levels. -/
def questionsAt : Nat → Value → List Question
  | n + 1, .map es =>
    (walkedIn (.map es)).flatMap (questionsAt n) ++ ask es (mapField es "properties")
  | _, _ => []

/-- **The questions of a schema**, in their order. -/
def questions (schema : Value) : List Question := questionsAt schema.depth schema

theorem questionsAt_of_not_map (n : Nat) {v : Value} (h : v.isMap = false) :
    questionsAt n v = [] := by
  unfold questionsAt
  split
  · simp [Value.isMap] at h
  · rfl

/-- There are no questions about what is no mapping. -/
theorem questions_of_not_map {v : Value} (h : v.isMap = false) : questions v = [] :=
  questionsAt_of_not_map _ h

theorem questionsAt_eq_of_depth_le {k n : Nat} {schema : Value} (hk : schema.depth ≤ k)
    (hn : schema.depth ≤ n) : questionsAt k schema = questionsAt n schema := by
  induction k generalizing n schema with
  | zero => have := schema.depth_pos; omega
  | succ k ih =>
    cases n with
    | zero => have := schema.depth_pos; omega
    | succ n =>
      cases schema with
      | map es =>
        have hinside : (walkedIn (.map es)).flatMap (questionsAt k) =
            (walkedIn (.map es)).flatMap (questionsAt n) := by
          refine List.flatMap_congr fun v hv => ?_
          cases hmap : v.isMap with
          | true =>
            have hdepth := depth_of_mem_walkedIn hv hmap
            exact ih (by omega) (by omega)
          | false => rw [questionsAt_of_not_map k hmap, questionsAt_of_not_map n hmap]
        rw [questionsAt, questionsAt, hinside]
      | _ => rfl

/-- **The questions of a mapping** are those of the schemas inside, and then its own. -/
theorem questions_map (es : Entries) :
    questions (.map es) =
      (walkedIn (.map es)).flatMap questions ++ ask es (mapField es "properties") := by
  obtain ⟨n, hn⟩ := Nat.exists_eq_succ_of_ne_zero (Nat.ne_of_gt (Value.map es).depth_pos)
  have hinside : (walkedIn (.map es)).flatMap (questionsAt n) =
      (walkedIn (.map es)).flatMap questions := by
    refine List.flatMap_congr fun v hv => ?_
    cases hmap : v.isMap with
    | true =>
      have hdepth := depth_of_mem_walkedIn hv hmap
      exact questionsAt_eq_of_depth_le (by omega) (Nat.le_refl _)
    | false => rw [questions_of_not_map hmap, questionsAt_of_not_map n hmap]
  rw [questions, hn, questionsAt, hinside]

/-- The questions of the schemas inside, place by place. -/
theorem flatMap_walkedIn (es : Entries) :
    (walkedIn (.map es)).flatMap questions =
      ((itemSchemas (valueField es "items")).flatMap questions ++
        ((listField es "allOf").flatMap questions ++ ((listField es "oneOf").flatMap questions ++
          ((listField es "anyOf").flatMap questions ++
            questions (valueField es "additionalProperties"))))) ++
      ((mapField es "properties").map (·.2)).flatMap questions := by
  simp only [walkedIn, List.flatMap_append, List.flatMap_cons, List.append_assoc]

/-- What stands inside comes first, and that of a combination before that of the properties. -/
example : (questions (.map [
    (.str "properties", .map [
      (.str "a", .map [(.str "properties", .map [(.str "b", .map [])])]),
      (.str "c", .map [(.str "$ref", .str "#/definitions/C")])]),
    (.str "allOf", .list [.map [(.str "properties", .map [(.str "d", .map [])])]])])).map
      (fun q => q.key.text) = ["d".toList, "b".toList, "a".toList] := by
  decide +kernel

theorem mem_ask_iff {object properties : Entries} {q : Question} :
    q ∈ ask object properties ↔
      ∃ v, (q.key, v) ∈ properties ∧ asked? v = some q.property ∧ q.object = object := by
  rw [ask, List.mem_filterMap]
  constructor
  · rintro ⟨⟨key, v⟩, he, hq⟩
    obtain ⟨property, hasked, rfl⟩ := Option.map_eq_some_iff.1 hq
    exact ⟨v, he, hasked, rfl⟩
  · rintro ⟨v, he, hasked, rfl⟩
    exact ⟨(q.key, v), he, Option.map_eq_some_iff.2 ⟨q.property, hasked, rfl⟩⟩

/-- **Induction along the pass**: what holds of all that is no mapping, and of a mapping whenever
it holds of the schemas in it, holds of every schema. -/
@[elab_as_elim]
theorem walked_induction {motive : Value → Prop} (other : ∀ v : Value, v.isMap = false → motive v)
    (mapping : ∀ es, (∀ v ∈ walkedIn (.map es), motive v) → motive (.map es)) (schema : Value) :
    motive schema := by
  induction hn : schema.depth using Nat.strongRecOn generalizing schema with
  | ind n ih =>
    cases schema with
    | map es =>
      refine mapping es fun v hv => ?_
      cases hmap : v.isMap with
      | true => exact ih v.depth (hn ▸ depth_of_mem_walkedIn hv hmap) v rfl
      | false => exact other v hmap
    | _ => exact other _ rfl

/-- **There is a question about each property of each schema that the pass goes through**, and
about nothing else. -/
theorem mem_questions_iff {schema : Value} {q : Question} :
    q ∈ questions schema ↔
      ∃ es, Walked schema (.map es) ∧ q ∈ ask es (mapField es "properties") := by
  induction schema using walked_induction with
  | other v hmap =>
    rw [questions_of_not_map hmap]
    refine iff_of_false List.not_mem_nil ?_
    rintro ⟨es, hwalked, -⟩
    rw [hwalked.isMap rfl] at hmap
    exact nomatch hmap
  | mapping es ih =>
    rw [questions_map, List.mem_append, List.mem_flatMap]
    constructor
    · rintro (⟨v, hv, hq⟩ | hq)
      · obtain ⟨fs, hwalked, hq⟩ := (ih v hv).1 hq
        exact ⟨fs, .inside hv hwalked, hq⟩
      · exact ⟨es, .self _, hq⟩
    · rintro ⟨fs, hwalked, hq⟩
      cases hwalked with
      | self => exact .inr hq
      | inside hv hwalked => exact .inl ⟨_, hv, (ih _ hv).2 ⟨fs, hwalked, hq⟩⟩

/-! ### The calls -/

/-- **A call asks a question**, after some others: what the pass has made of the property by then,
and of the property itself its type, its description and whether it is optional. -/
structure Asks (answer : List Call → Except Failure View) (before : List Call) (q : Question)
    (c : Call) : Prop where
  /-- The schemas inside of the property have been rebuilt. -/
  rebuilt : Meanwhile [] before (mapSchema (remembering answer) (.map q.property))
    (.map c.property)
  /-- Its type is still the declared one. -/
  type : Entries.field? c.property "type" = Entries.field? q.property "type"
  /-- Its description is still the one it has had. -/
  description : Entries.field? c.property "description" = Entries.field? q.property "description"
  /-- The hook sees the type. -/
  viewType : c.view.type = valueField q.property "type"
  /-- The hook sees the description. -/
  viewDescription : c.view.description = valueField q.property "description"
  /-- The hook sees whether the property is required at first, if the properties have different
  names. -/
  viewOptional : ((mapField q.object "properties").map fun e => e.1.text).Nodup →
    c.view.optional = decide (q.key.text ∉ requiredNames (listField q.object "required"))

/-- **Some questions have been asked and answered**, one after the other. -/
inductive Heard (answer : List Call → Except Failure View) :
    List Question → List Call → List Call → Prop
  /-- There are none. -/
  | nil {calls : List Call} : Heard answer [] calls calls
  /-- The first one is asked and answered, and then the others are. -/
  | cons {q : Question} {c : Call} {view : View} {rest : List Question} {calls calls' : List Call} :
      Asks answer calls q c → answer (c :: calls) = .ok view →
      Heard answer rest (c :: calls) calls' → Heard answer (q :: rest) calls calls'

/-- **One of some questions has been refused**: those in front of it have been answered, and those
behind it have not been asked. -/
inductive Refused (answer : List Call → Except Failure View) (e : Failure) :
    List Question → List Call → List Call → Prop
  /-- The first one. -/
  | head {q : Question} {c : Call} {rest : List Question} {calls : List Call} :
      Asks answer calls q c → answer (c :: calls) = .error e →
      Refused answer e (q :: rest) calls (c :: calls)
  /-- Another one. -/
  | tail {q : Question} {c : Call} {view : View} {rest : List Question} {calls calls' : List Call} :
      Asks answer calls q c → answer (c :: calls) = .ok view →
      Refused answer e rest (c :: calls) calls' → Refused answer e (q :: rest) calls calls'

theorem Heard.append {qs qs' : List Question} {calls'' : List Call}
    (h : Heard answer qs calls calls') (h' : Heard answer qs' calls' calls'') :
    Heard answer (qs ++ qs') calls calls'' := by
  induction h with
  | nil => exact h'
  | cons hasks hanswer _ ih => exact .cons hasks hanswer (ih h')

theorem Heard.refused {qs qs' : List Question} {e : Failure} {calls'' : List Call}
    (h : Heard answer qs calls calls') (h' : Refused answer e qs' calls' calls'') :
    Refused answer e (qs ++ qs') calls calls'' := by
  induction h with
  | nil => exact h'
  | cons hasks hanswer _ ih => exact .tail hasks hanswer (ih h')

theorem Refused.append {qs : List Question} {e : Failure} (h : Refused answer e qs calls calls')
    (qs' : List Question) : Refused answer e (qs ++ qs') calls calls' := by
  induction h with
  | head hasks hrefused => exact .head hasks hrefused
  | tail hasks hanswer _ ih => exact .tail hasks hanswer ih

/-- The calls are as many as the questions. -/
theorem Heard.length_eq {qs : List Question} (h : Heard answer qs calls calls') :
    calls'.length = calls.length + qs.length := by
  induction h with
  | nil => rfl
  | cons _ _ _ ih => rw [ih, List.length_cons, List.length_cons]; omega

/-! ### Computations that follow questions -/

/-- **A computation follows some questions**: its calls are these, up to one that is refused. -/
def FollowsFrom {α : Type} (answer : List Call → Except Failure View) (qs : List Question)
    (x : Remembering α) (calls : List Call) : Prop :=
  match x.run calls with
  | (.ok _, calls') => Heard answer qs calls calls'
  | (.error e, calls') => Refused answer e qs calls calls'

section Rules

variable {α β : Type} {x : Remembering α} {f : α → Remembering β} {qs qs' : List Question}

theorem followsFrom_pure (a : α) (calls : List Call) :
    FollowsFrom answer [] (pure a : Remembering α) calls := .nil

theorem FollowsFrom.bind (hx : FollowsFrom answer qs x calls)
    (hf : ∀ a calls', x.run calls = (.ok a, calls') → FollowsFrom answer qs' (f a) calls') :
    FollowsFrom answer (qs ++ qs') (x >>= f) calls := by
  unfold FollowsFrom at hx ⊢
  rw [run_bind_kept]
  rcases hrun : x.run calls with ⟨r, between⟩
  rw [hrun] at hx
  cases r with
  | error e => exact Refused.append hx qs'
  | ok a =>
    have hlast := hf a between hrun
    unfold FollowsFrom at hlast
    dsimp only
    rcases hnext : (f a).run between with ⟨r', last⟩
    rw [hnext] at hlast
    cases r' with
    | ok b => exact Heard.append hx hlast
    | error e => exact Heard.refused hx hlast

/-- What comes next asks no questions. -/
theorem FollowsFrom.bind_silent (hx : FollowsFrom answer qs x calls)
    (hf : ∀ a calls, FollowsFrom answer [] (f a) calls) :
    FollowsFrom answer qs (x >>= f) calls := by
  rw [← List.append_nil qs]
  exact hx.bind fun a calls' _ => hf a calls'

theorem followsFrom_mapM {l : List α} {q : α → List Question}
    (hf : ∀ a ∈ l, ∀ calls, FollowsFrom answer (q a) (f a) calls) (calls : List Call) :
    FollowsFrom answer (l.flatMap q) (l.mapM f) calls := by
  induction l generalizing calls with
  | nil => exact followsFrom_pure [] calls
  | cons a l ih =>
    rw [List.forall_mem_cons] at hf
    rw [List.mapM_cons, List.flatMap_cons]
    exact (hf.1 calls).bind fun b calls' _ =>
      (ih hf.2 calls').bind_silent fun _ => followsFrom_pure _

end Rules

/-! ### The parts of the pass -/

section Parts

variable {F : Value → Remembering Value} {Q : Value → List Question}

theorem followsFrom_rebuildList {o : Option Value}
    (hF : ∀ v ∈ (o.bind Value.items?).getD [], ∀ calls, FollowsFrom answer (Q v) (F v) calls)
    (calls : List Call) :
    FollowsFrom answer (((o.bind Value.items?).getD []).flatMap Q) (rebuildList F o) calls := by
  unfold rebuildList
  split
  · exact (followsFrom_mapM hF calls).bind_silent fun _ => followsFrom_pure _
  · next hother =>
    have hnone : (o.bind Value.items?).getD [] = [] := by
      cases o with
      | none => rfl
      | some v => cases v <;> simp_all [Value.items?]
    rw [hnone]
    exact followsFrom_pure none calls

theorem followsFrom_rebuildMap {o : Option Value}
    (hF : ∀ calls, FollowsFrom answer (Q (o.getD .null)) (F (o.getD .null)) calls)
    (hQ : ∀ v : Value, v.isMap = false → Q v = []) (calls : List Call) :
    FollowsFrom answer (Q (o.getD .null)) (rebuildMap F o) calls := by
  unfold rebuildMap
  split
  · exact (hF calls).bind_silent fun _ => followsFrom_pure _
  · next hother =>
    have hmap : (o.getD .null).isMap = false := by
      cases o with
      | none => rfl
      | some v => cases v <;> simp_all [Value.isMap]
    rw [hQ _ hmap]
    exact followsFrom_pure none calls

theorem followsFrom_rebuildItems {o : Option Value}
    (hF : ∀ v ∈ itemSchemas (o.getD .null), ∀ calls, FollowsFrom answer (Q v) (F v) calls)
    (hQ : ∀ v : Value, v.isMap = false → Q v = []) (calls : List Call) :
    FollowsFrom answer ((itemSchemas (o.getD .null)).flatMap Q) (rebuildItems F o) calls := by
  unfold rebuildItems
  split
  · next items => exact followsFrom_rebuildList (o := some (.list items)) hF calls
  · next hother =>
    have hone : itemSchemas (o.getD .null) = [o.getD .null] := by
      cases o with
      | none => rfl
      | some v => cases v <;> simp_all [itemSchemas]
    rw [hone] at hF ⊢
    rw [List.flatMap_singleton]
    exact followsFrom_rebuildMap (hF _ List.mem_cons_self) hQ calls

theorem followsFrom_rebuildInner
    (hF : ∀ v ∈ walkedIn (.map es), ∀ calls, FollowsFrom answer (Q v) (F v) calls)
    (hQ : ∀ v : Value, v.isMap = false → Q v = []) (calls : List Call) :
    FollowsFrom answer ((itemSchemas (valueField es "items")).flatMap Q ++
      ((listField es "allOf").flatMap Q ++ ((listField es "oneOf").flatMap Q ++
        ((listField es "anyOf").flatMap Q ++ Q (valueField es "additionalProperties")))))
      (rebuildInner F es) calls := by
  have hlist : ∀ name ∈ listKeywords, ∀ v ∈ listField es name, ∀ calls,
      FollowsFrom answer (Q v) (F v) calls :=
    fun name hname v hv => hF v (mem_walkedIn_combined hname hv)
  refine (followsFrom_rebuildItems (fun v hv => hF v (mem_walkedIn_items hv)) hQ calls).bind
    fun _ calls _ => ?_
  refine (followsFrom_rebuildList (hlist "allOf" (by decide)) calls).bind fun _ calls _ => ?_
  refine (followsFrom_rebuildList (hlist "oneOf" (by decide)) calls).bind fun _ calls _ => ?_
  refine (followsFrom_rebuildList (hlist "anyOf" (by decide)) calls).bind fun _ calls _ => ?_
  exact (followsFrom_rebuildMap (hF _ (mem_walkedIn_additional es)) hQ calls).bind_silent
    fun _ => followsFrom_pure _

theorem followsFrom_rebuildProperties {properties : Entries}
    (hF : ∀ e ∈ properties, ∀ calls, FollowsFrom answer (Q e.2) (F e.2) calls)
    (calls : List Call) :
    FollowsFrom answer ((properties.map (·.2)).flatMap Q) (rebuildProperties F properties)
      calls := by
  rw [List.flatMap_map, rebuildProperties]
  exact followsFrom_mapM (fun e he calls => (hF e he calls).bind_silent fun _ => followsFrom_pure _)
    calls

end Parts

theorem followsFrom_remembering {q : Question} {property : Entries} {view : View}
    (h : Asks answer calls q ⟨property, view⟩) :
    FollowsFrom answer [q] (remembering answer property view) calls := by
  unfold FollowsFrom
  rw [run_remembering]
  cases hanswer : answer (⟨property, view⟩ :: calls) with
  | ok view' => exact Heard.cons h hanswer .nil
  | error e => exact Refused.head h hanswer

/-- What the pass makes of a property is what a question about it is asked with. -/
theorem asks_of_meanwhile {object property rebuilt : Entries} {key : Value}
    {required : Option (List Text)}
    (hmade : Meanwhile [] calls (mapSchema (remembering answer) (.map property)) (.map rebuilt))
    (hrequired : ((mapField object "properties").map fun e => e.1.text).Nodup →
      (key.text ∈ required.getD [] ↔ key.text ∈ requiredNames (listField object "required"))) :
    Asks answer calls ⟨object, key, property⟩ ⟨rebuilt, viewOf required key.text rebuilt⟩ := by
  obtain ⟨before, after, hbefore, hrun, hafter⟩ := hmade
  have hfield : ∀ name ∉ editedKeywords,
      Entries.field? rebuilt name = Entries.field? property name := by
    intro name hname
    obtain ⟨out, hout, hfield⟩ := field?_of_run hname hrun
    rw [Value.map.inj hout, hfield]
  have htype := hfield "type" (by decide)
  have hdescription := hfield "description" (by decide)
  refine ⟨⟨before, after, hbefore, hrun, hafter⟩, htype, hdescription, ?_, ?_, fun hnodup => ?_⟩
  · rw [viewOf_eq]
    exact congrArg (Option.getD · .null) htype
  · rw [viewOf_eq]
    exact congrArg (Option.getD · .null) hdescription
  · rw [viewOf_optional, decide_eq_decide, hrequired hnodup]

/-- **The questions about some properties** are asked in their order, while the list of required
names is edited. -/
theorem followsFrom_mapProperties {object properties rebuilt : Entries}
    {required : Option (List Text)}
    (hrebuilt : List.Forall₂ (fun e e' => e'.1 = e.1 ∧
      Meanwhile [] calls (mapSchema (remembering answer) e.2) e'.2 ∧
      (asked? e'.2).isSome = (asked? e.2).isSome) properties rebuilt)
    (hrequired : ((mapField object "properties").map fun e => e.1.text).Nodup →
      (properties.map fun e => e.1.text).Nodup ∧ ∀ e ∈ properties,
        (e.1.text ∈ required.getD [] ↔ e.1.text ∈ requiredNames (listField object "required"))) :
    FollowsFrom answer (ask object properties)
      (mapProperties (remembering answer) required rebuilt) calls := by
  induction properties generalizing rebuilt required calls with
  | nil =>
    cases hrebuilt
    exact followsFrom_pure _ calls
  | cons e rest ih =>
    cases hrebuilt with
    | @cons _ e' _ rebuilt hfirst hrest =>
      obtain ⟨key, v⟩ := e
      obtain ⟨key', w⟩ := e'
      obtain ⟨rfl, hmade, hasked⟩ := hfirst
      have hlater : ((mapField object "properties").map fun e => e.1.text).Nodup →
          (rest.map fun e => e.1.text).Nodup ∧ ∀ e ∈ rest, (e.1.text ∈ required.getD [] ↔
            e.1.text ∈ requiredNames (listField object "required")) := fun hnodup =>
        (hrequired hnodup).imp (fun h => (List.nodup_cons.1 h).2)
          fun h e he => h e (List.mem_cons_of_mem _ he)
      rw [mapProperties]
      cases hw : asked? w with
      | none =>
        -- the property is not asked about, and so it is passed over among the questions, too
        have hv : asked? v = none := by simpa [hw] using hasked
        rw [ask, List.filterMap_cons_none (by rw [hv]; rfl), ← ask]
        exact (ih hrest hlater).bind_silent fun _ => followsFrom_pure _
      | some fs =>
        obtain ⟨property, hv⟩ := Option.isSome_iff_exists.1 (hasked.symm.trans (hw ▸ rfl))
        obtain rfl := eq_map_of_asked? hv
        obtain rfl := eq_map_of_asked? hw
        rw [ask, List.filterMap_cons_some (by rw [hv]; rfl), ← ask, ← List.singleton_append]
        have hasks : Asks answer calls ⟨object, key', property⟩
            ⟨fs, viewOf required key'.text fs⟩ :=
          asks_of_meanwhile hmade fun hnodup => (hrequired hnodup).2 (key', .map property)
            List.mem_cons_self
        refine (followsFrom_remembering hasks).bind fun view calls' hrun => ?_
        have hsuffix := (onlyAsks_remembering _ _).of_run hrun
        refine FollowsFrom.bind_silent (ih (hrest.imp fun e e' h => ?_) fun hnodup => ?_)
          fun _ => followsFrom_pure _
        · exact ⟨h.1, h.2.1.mono (List.suffix_refl _) hsuffix, h.2.2⟩
        · -- the answer does not touch the names of the other properties
          refine ⟨(hlater hnodup).1, fun e he => ?_⟩
          have hne : e.1.text ≠ key'.text := fun hn =>
            (List.nodup_cons.1 (hrequired hnodup).1).1 (List.mem_map.2 ⟨e, he, hn⟩)
          rw [mem_require_of_ne hne, (hlater hnodup).2 e he]

/-- **The calls of the pass over a schema are its questions.** -/
theorem followsFrom_mapSchema (schema : Value) (calls : List Call) :
    FollowsFrom answer (questions schema) (mapSchema (remembering answer) schema) calls := by
  induction schema using walked_induction generalizing calls with
  | other v hmap =>
    rw [questions_of_not_map hmap, mapSchema_of_not_map hmap]
    exact followsFrom_pure v calls
  | mapping es ih =>
    rw [mapSchema_map, rebuildLevel_eq, questions_map, flatMap_walkedIn, List.append_assoc]
    refine FollowsFrom.bind_silent
      ((followsFrom_rebuildInner ih (fun v => questions_of_not_map) calls).bind
        fun inner calls _ => ?_) fun _ => followsFrom_pure _
    split
    · next properties hprops =>
      have hfield : mapField es "properties" = properties := by rw [mapField, hprops]; rfl
      rw [hfield]
      refine (followsFrom_rebuildProperties
        (fun e he => ih e.2 (mem_walkedIn_property (hfield ▸ he))) calls).bind
          fun rebuilt calls' hrun => ?_
      refine (followsFrom_mapProperties ?_ ?_).bind_silent fun _ => followsFrom_pure _
      · exact (meanwhile_rebuildProperties hrun).imp fun e e' h =>
          ⟨h.1, h.2.1.mono (List.nil_suffix) (List.suffix_refl _), h.2.2⟩
      · intro hnodup
        rw [hfield] at hnodup
        exact ⟨hnodup, fun e _ => by rw [requiredOf_getD]⟩
    · next hprops =>
      rw [mapField_eq_nil hprops]
      exact followsFrom_pure _ _

/-- **The calls of the pass over some schemas** are the questions of one schema after the other. -/
theorem followsFrom_mapSchemas (schemas : Entries) (calls : List Call) :
    FollowsFrom answer (schemas.flatMap fun e => questions e.2)
      (mapSchemas (remembering answer) schemas) calls := by
  rw [mapSchemas]
  refine followsFrom_mapM (fun e _ calls => ?_) calls
  exact (followsFrom_mapSchema e.2 calls).bind_silent fun _ => followsFrom_pure _

end ApiTypes.Hook
