import ApiTypes.Proofs.Hook.Questions
import ApiTypes.Proofs.Schema.RequiredNames

/-!
# Whether a property is optional

A property is optional if its name is not a required one, and this is asked in two places: where the
property is written, and where the hook is asked about it. Both read the same names off the schema
(`ApiTypes.Schema.mem_requiredNames_iff`), and so they agree, as long as the hook has not spoken.

What the hook answers about a property says of its name whether it is a required one from then on
(`ApiTypes.Hook.lookup_requireAll`). The next property of that name, if there is another one, is
seen as the hook has answered about the one in front of it. When the pass comes to a property, it
has asked about the schemas inside and about the properties in front of it, unless the hook has
refused one of these (`ApiTypes.Hook.ComesTo`).

`ApiTypes.Hook.optional_iff_unlisted` says both for each property of an object. The object may stand
anywhere, since the pass over a schema makes one over each schema in it
(`ApiTypes.Hook.meanwhile_of_walked`). An entry that is a date does not count, and so a property of
such a name is optional though it is listed (`ApiTypes.Hook.optional_of_listed_date`).
-/

namespace ApiTypes.Hook

open Schema

variable {answer : List Call → Except Failure View} {calls calls' : List Call} {es : Entries}

/-! ### The names in between -/

/-- **The last answer about a name is the one that counts.** Without one the name is as it has been
before. -/
theorem lookup_requireAll (required : Option (List Text)) (answers : List (Text × Bool))
    (name : Text) :
    decide (name ∉ (requireAll required answers).getD []) =
      (answers.reverse.lookup name).getD (decide (name ∉ required.getD [])) := by
  induction answers using List.reverseRecOn with
  | nil => rfl
  | append_singleton answers a ih =>
    have hstep : requireAll required (answers ++ [a]) =
        require (requireAll required answers) a.1 a.2 := by
      rw [requireAll, List.foldl_append]
      rfl
    rw [hstep, List.reverse_append, List.reverse_singleton, List.singleton_append,
      List.lookup_cons]
    by_cases hname : name = a.1
    · simp [mem_require_iff, hname]
    · have hne : (name == a.1) = false := by simpa using hname
      rw [hne, ← ih, decide_eq_decide, mem_require_of_ne hname]

/-- The properties in front are gone through before the others. -/
theorem mapProperties_append {m : Type → Type} [Monad m] [LawfulMonad m] (hook : Hook m)
    (required : Option (List Text)) (front behind : Entries) :
    mapProperties hook required (front ++ behind) = (do
      let (done, required) ← mapProperties hook required front
      let (rest, required) ← mapProperties hook required behind
      pure (done ++ rest, required)) := by
  induction front generalizing required with
  | nil => simp [mapProperties]
  | cons e front ih =>
    obtain ⟨key, property⟩ := e
    rw [List.cons_append, mapProperties, mapProperties]
    cases asked? property with
    | none => simp [ih]
    | some fs => simp [ih]

/-! ### What comes before -/

/-- **A computation that follows some questions is refused one of them**, and then what comes next
is not begun, or what comes next is begun with the calls about all of them. -/
theorem FollowsFrom.bind_elim {α β : Type} {x : Remembering α} {f : α → Remembering β}
    {qs : List Question} {P : List Call → Prop} (h : FollowsFrom answer qs x calls)
    (hrefused : ∀ e calls', Refused answer e qs calls calls' → P calls')
    (hheard : ∀ a between, x.run calls = (.ok a, between) → Heard answer qs calls between →
      P ((f a).run between).2) : P ((x >>= f).run calls).2 := by
  unfold FollowsFrom at h
  rw [run_bind_kept]
  rcases hrun : x.run calls with ⟨r, between⟩
  rw [hrun] at h
  cases r with
  | error e => exact hrefused e between h
  | ok a => exact hheard a between hrun h

/-- A call that has been made stays the one behind all later ones. -/
theorem suffix_of_remembering {β : Type} {f : View → Remembering β}
    (hf : ∀ view, OnlyAsks answer (f view)) (property : Entries) (view : View) (calls : List Call) :
    ⟨property, view⟩ :: calls <:+ ((remembering answer property view >>= f).run calls).2 := by
  rw [run_bind_kept, run_remembering]
  cases answer (⟨property, view⟩ :: calls) with
  | error e => exact List.suffix_refl _
  | ok view' => exact (hf view').suffix _

/-- The questions about the schemas inside of an object. -/
def insideQuestions (es : Entries) : List Question := (walkedIn (.map es)).flatMap questions

/-- **The pass comes to a property** of the object `es`, with the properties `front` in front of it,
or it does not come so far. -/
inductive ComesTo (answer : List Call → Except Failure View) (es front : Entries) (key : Value)
    (property : Entries) (calls calls' : List Call) : Prop
  /-- The hook has refused a question of before. -/
  | stopped {e : Failure} : Refused answer e (insideQuestions es ++ ask es front) calls calls' →
      ComesTo answer es front key property calls calls'
  /-- The hook is asked about the property, after the schemas inside and the properties in front.
  It sees what it has answered last about a property of that name. -/
  | asked {inside between : List Call} {outcomes : List Outcome} {c : Call} :
      Heard answer (insideQuestions es) calls inside →
      InTurn answer (fun _ _ _ => True) outcomes inside between →
      List.Forall₂ (fun e p => p.key = e.1 ∧ p.answer?.isSome = (asked? e.2).isSome)
        front outcomes →
      c :: between <:+ calls' → Asks answer between ⟨es, key, property⟩ c →
      c.view.optional = ((answersOf outcomes).reverse.lookup key.text).getD
        (decide (key.text ∉ requiredNames (listField es "required"))) →
      ComesTo answer es front key property calls calls'

/-- The pass over a schema with properties, by its parts. -/
theorem mapSchema_of_properties {m : Type → Type} [Monad m] [LawfulMonad m] (hook : Hook m)
    {properties : Entries} (h : Entries.field? es "properties" = some (.map properties)) :
    mapSchema hook (.map es) = (do
      let inner ← rebuildInner (mapSchema hook) es
      let rebuilt ← rebuildProperties (mapSchema hook) properties
      let outcome ← mapProperties hook (requiredOf es) rebuilt
      pure (.map (settled inner es outcome))) := by
  rw [mapSchema_map, rebuildLevel_eq, h]
  simp only [bind_assoc, pure_bind]

/-- No answer is about a name that none of the properties has. -/
theorem lookup_answersOf_eq_none {outcomes : List Outcome} {name : Text}
    (h : name ∉ outcomes.map fun p => p.key.text) :
    (answersOf outcomes).reverse.lookup name = none := by
  refine List.lookup_eq_none_iff.2 fun a ha => ?_
  rw [List.mem_reverse] at ha
  have hname : a.1 ∈ outcomes.map fun p => p.key.text :=
    (answersOf_sublist outcomes).subset (List.mem_map_of_mem ha)
  have hne : name ≠ a.1 := fun heq => h (heq ▸ hname)
  simpa using hne

/-- What is related to a list is split as the list is. -/
theorem exists_of_forall₂_append_cons {α β : Type} {R : α → β → Prop} {a : α}
    {front behind : List α} {l : List β} (h : List.Forall₂ R (front ++ a :: behind) l) :
    ∃ front' b behind', l = front' ++ b :: behind' ∧ List.Forall₂ R front front' ∧ R a b := by
  induction front generalizing l with
  | nil =>
    cases h with
    | @cons _ b _ behind' hab _ => exact ⟨[], b, behind', rfl, .nil, hab⟩
  | cons c front ih =>
    cases h with
    | @cons _ d _ l hcd hrest =>
      obtain ⟨front', b, behind', rfl, hfront, hab⟩ := ih hrest
      exact ⟨d :: front', b, behind', rfl, .cons hcd hfront, hab⟩

/-- **Among the properties the pass comes to each that the hook is asked about**, unless it stops
before. -/
theorem comesTo_of_mapProperties {β : Type} {front behind rebuilt : Entries} {key : Value}
    {property : Entries} {inside : List Call} {f : Entries × Option (List Text) → Remembering β}
    (hprops : mapField es "properties" = front ++ (key, .map property) :: behind)
    (hasked : asked? (.map property) = some property)
    (hheard : Heard answer (insideQuestions es) calls inside)
    (hrebuilt : List.Forall₂ (fun e e' => e'.1 = e.1 ∧
      Meanwhile [] inside (mapSchema (remembering answer) e.2) e'.2 ∧
      (asked? e'.2).isSome = (asked? e.2).isSome) (front ++ (key, .map property) :: behind) rebuilt)
    (hf : ∀ outcome, OnlyAsks answer (f outcome)) :
    ComesTo answer es front key property calls
      ((mapProperties (remembering answer) (requiredOf es) rebuilt >>= f).run inside).2 := by
  obtain ⟨front', ⟨key', w⟩, behind', rfl, hfront, hkey, hmade, hsome⟩ :=
    exists_of_forall₂_append_cons hrebuilt
  obtain rfl : key' = key := hkey
  obtain ⟨fs, hw⟩ : ∃ fs, asked? w = some fs :=
    Option.isSome_iff_exists.1 (hsome.trans (congrArg Option.isSome hasked))
  obtain rfl := eq_map_of_asked? hw
  have hnames : ((mapField es "properties").map fun e => e.1.text).Nodup →
      (front.map fun e => e.1.text).Nodup ∧ key'.text ∉ front.map fun e => e.1.text := by
    intro hnodup
    rw [hprops, List.map_append, List.map_cons, List.nodup_append] at hnodup
    exact ⟨hnodup.1, fun hmem => hnodup.2.2 _ hmem _ List.mem_cons_self rfl⟩
  have hfollows : FollowsFrom answer (ask es front)
      (mapProperties (remembering answer) (requiredOf es) front') inside :=
    followsFrom_mapProperties hfront fun hnodup =>
      ⟨(hnames hnodup).1, fun e _ => by rw [requiredOf_getD]⟩
  rw [mapProperties_append, bind_assoc]
  refine hfollows.bind_elim
    (P := ComesTo answer es front key' property calls)
    (fun e calls' hrefused => .stopped (hheard.refused hrefused)) fun a between hrun _ => ?_
  obtain ⟨done, required⟩ := a
  obtain ⟨outcomes, hpairs, -, hrequired, hturn⟩ := outcomes_of_mapProperties hrun
  have hlast : decide (key'.text ∉ required.getD []) =
      ((answersOf outcomes).reverse.lookup key'.text).getD
        (decide (key'.text ∉ requiredNames (listField es "required"))) := by
    rw [← hrequired, lookup_requireAll, requiredOf_getD]
  have hpaired : List.Forall₂ (fun e p => p.key = e.1 ∧ p.answer?.isSome = (asked? e.2).isSome)
      front outcomes := by
    subst hpairs
    exact hturn.answered_iff ((List.forall₂_map_right_iff.1 hfront).imp fun e p hp =>
      ⟨hp.1, hp.2.2⟩)
  refine .asked (c := ⟨fs, viewOf required key'.text fs⟩) hheard
    (hturn.imp fun _ _ _ _ _ => trivial) hpaired ?made ?asks ?optional
  case optional =>
    rw [viewOf_optional, hlast]
  case asks =>
    refine asks_of_meanwhile (hmade.mono (List.suffix_refl _) hturn.suffix) fun hnodup => ?_
    have hnone : (answersOf outcomes).reverse.lookup key'.text = none := by
      refine lookup_answersOf_eq_none ?_
      rw [← names_eq (hpaired.imp fun _ _ h => h.1)]
      exact (hnames hnodup).2
    rw [hnone, Option.getD_none, decide_eq_decide] at hlast
    exact not_iff_not.1 hlast
  case made =>
    dsimp only
    rw [mapProperties, hw, bind_assoc, bind_assoc]
    exact suffix_of_remembering (fun view => ((onlyAsks_mapProperties _ _).bind fun _ =>
      onlyAsks_pure _).bind fun _ => hf _) _ _ _

/-- **The pass comes to each property that the hook is asked about**, unless it stops before. -/
theorem comesTo_of_run {front behind : Entries} {key v : Value} {property : Entries}
    (hprops : mapField es "properties" = front ++ (key, v) :: behind)
    (hasked : asked? v = some property) (calls : List Call) :
    ComesTo answer es front key property calls
      ((mapSchema (remembering answer) (.map es)).run calls).2 := by
  obtain rfl := eq_map_of_asked? hasked
  obtain ⟨properties, hfield⟩ : ∃ p, Entries.field? es "properties" = some (.map p) := by
    by_contra hnone
    rw [mapField_eq_nil (not_exists.1 hnone)] at hprops
    exact absurd hprops.symm (by simp)
  obtain rfl : properties = front ++ (key, .map property) :: behind := by
    rw [← hprops, mapField, hfield]
    rfl
  rw [mapSchema_of_properties _ hfield]
  refine (followsFrom_rebuildInner (fun v _ => followsFrom_mapSchema v)
    (fun v => questions_of_not_map) calls).bind_elim
      (P := ComesTo answer es front key property calls) (fun e calls' hrefused => ?_)
      fun inner between _ hinner => ?_
  · refine .stopped (e := e) ?_
    rw [insideQuestions, flatMap_walkedIn]
    exact (hrefused.append _).append _
  refine (followsFrom_rebuildProperties (fun e _ => followsFrom_mapSchema e.2) between).bind_elim
    (P := ComesTo answer es front key property calls) (fun e calls' hrefused => ?_)
    fun rebuilt inside hrebuilt hproperties => ?_
  · refine .stopped (e := e) ?_
    rw [insideQuestions, flatMap_walkedIn, hprops]
    exact (hinner.refused hrefused).append _
  refine comesTo_of_mapProperties hprops hasked ?_ ?_ fun _ => onlyAsks_pure _
  · rw [insideQuestions, flatMap_walkedIn, hprops]
    exact hinner.append hproperties
  · exact (meanwhile_rebuildProperties hrebuilt).imp fun e e' h =>
      ⟨h.1, h.2.1.mono List.nil_suffix (List.suffix_refl _), h.2.2⟩

/-! ### A property of an object -/

/-- **Whether a property is optional.** In both dialects it is written with a question mark, between
the properties in front of it and those behind it, exactly if its name is none of the required
names, which are the texts of the strings, numbers and truth values that are listed. And when the
pass comes to it, the hook sees the same, unless it has answered about a property of that name in
front of it, and then it sees its last answer. -/
theorem optional_iff_unlisted {front behind : Entries} {key v : Value}
    (hobject : classify (.map es) = .object)
    (hprops : mapField es "properties" = front ++ (key, v) :: behind) :
    let names := requiredNames (listField es "required")
    (key.text ∈ names ↔ ∃ item ∈ listField es "required", isName item ∧ item.text = key.text) ∧
      (∀ d, membersText d front names ++
        (commentOf (Node.ofValue v) ++ TypeScript.Written.property key.text
          (decide (key.text ∉ names)) (propertyType d (Node.ofValue v) (typeOf d v)).text ++
          membersText d behind names) <:+: typeText d (.map es)) ∧
      ∀ property, asked? v = some property → ∀ answer calls,
        ComesTo answer es front key property calls
          ((mapSchema (remembering answer) (.map es)).run calls).2 := by
  refine ⟨mem_requiredNames_iff, fun d => ?_, fun property hasked answer calls =>
    comesTo_of_run hprops hasked calls⟩
  rw [← membersText_cons, ← membersText_append, ← hprops]
  exact infix_typeText d hobject (by simp [hprops])

/-- A property whose name is a numeral, behind one whose name is a truth value. Both are listed. -/
theorem optional_iff_unlisted_numeral :
    let first : Value × Value := (.bool true, .map [(.str "type", .str "boolean")])
    let property : Entries := [(.str "type", .str "string"), (.str "description", .str "Missing.")]
    let es : Entries := [(.str "required", .list [.bool true, .null, .int 404]),
      (.str "properties", .map [first, (.int 404, .map property)])]
    classify (.map es) = .object ∧
      (∀ d, "/**\n  * Missing.\n  */\n\"404\": string;\n".toList <:+: typeText d (.map es)) ∧
      ∀ answer calls, ComesTo answer es [first] (.int 404) property calls
        ((mapSchema (remembering answer) (.map es)).run calls).2 := by
  intro first property es
  have hobject : classify (.map es) = .object := by decide +kernel
  have hprops : mapField es "properties" = [first] ++ [(.int 404, .map property)] := rfl
  obtain ⟨-, htext, hhook⟩ := optional_iff_unlisted hobject hprops
  refine ⟨hobject, fun d => ?_, hhook property (by decide +kernel)⟩
  refine List.IsInfix.trans
    ⟨membersText d [first] (requiredNames (listField es "required")), [], ?_⟩ (htext d)
  cases d <;> decide +kernel

/-- **A date that is listed does not count.** The property of that name is written as optional in
both dialects, and the hook sees it as optional. -/
theorem optional_of_listed_date :
    let day : Value := .date ⟨2020, 1, 1⟩
    let es : Entries := [(.str "type", .str "object"), (.str "required", .list [day]),
      (.str "properties", .map [(day, .map [(.str "type", .str "string")])])]
    let answer : List Call → Except Failure View := fun _ => .ok ⟨.str "string", false, .null⟩
    classify (.map es) = .object ∧ day ∈ listField es "required" ∧
      (∀ d, typeText d (.map es) = "\x7b \"2020-01-01\"?: string;\n \x7d".toList) ∧
      ((mapSchema (remembering answer) (.map es)).run []).2.map (fun c => c.view.optional) =
        [true] := by
  intro day es answer
  refine ⟨by decide +kernel, List.mem_singleton.2 rfl, fun d => ?_, by decide +kernel⟩
  cases d <;> decide +kernel

end ApiTypes.Hook
