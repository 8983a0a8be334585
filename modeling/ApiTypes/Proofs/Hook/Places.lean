import ApiTypes.Proofs.Hook.Answers
import ApiTypes.Proofs.Hook.Remembering
import ApiTypes.Proofs.Hook.Writing

/-!
# The places of schemas outside of the properties

Five keywords hold schemas besides the properties (`ApiTypes.Hook.places`), some of them a list of
schemas, some one schema, and one of them either. What else they hold is no schema for the pass.

The pass rebuilds each schema in its place (`ApiTypes.Hook.RebuiltIn`,
`ApiTypes.Hook.rebuiltIn_of_rebuildInner`). So what stands in the places after the pass has been
made of what has stood there before (`ApiTypes.Hook.RebuiltIn.exists_of_mem`), and something has
been made of all that (`ApiTypes.Hook.RebuiltIn.exists_rebuilt`).
-/

namespace ApiTypes.Hook

open Schema

variable {answer : List Call → Except Failure View} {calls calls' : List Call}
  {es : Entries} {v w : Value}

/-- **A keyword that holds schemas**, other than the properties. -/
structure Place where
  /-- The keyword. -/
  name : String
  /-- Whether it may hold a list of schemas. -/
  lists : Bool
  /-- Whether it may hold one schema. -/
  single : Bool

/-- The keywords that hold schemas, other than the properties. -/
def places : List Place :=
  [⟨"items", true, true⟩, ⟨"allOf", true, false⟩, ⟨"oneOf", true, false⟩, ⟨"anyOf", true, false⟩,
    ⟨"additionalProperties", false, true⟩]

/-- **The schemas of a keyword have been rebuilt**, each in its place, as `R` says. A value that
the keyword holds no schemas with stays. -/
inductive RebuiltIn (R : Value → Value → Prop) (place : Place) : Option Value → Option Value → Prop
  /-- A list of schemas. -/
  | list {vs ws : List Value} : place.lists → List.Forall₂ R vs ws →
      RebuiltIn R place (some (.list vs)) (some (.list ws))
  /-- One schema. -/
  | single {es : Entries} {w : Value} : place.single → R (.map es) w →
      RebuiltIn R place (some (.map es)) (some w)
  /-- No schemas. -/
  | kept {o : Option Value} : (∀ vs, place.lists → o ≠ some (.list vs)) →
      (∀ es, place.single → o ≠ some (.map es)) → RebuiltIn R place o o

theorem RebuiltIn.imp {R R' : Value → Value → Prop} {place : Place} {o o' : Option Value}
    (h : RebuiltIn R place o o') (himp : ∀ v w, R v w → R' v w) : RebuiltIn R' place o o' := by
  cases h with
  | list hlists hall => exact .list hlists (hall.imp himp)
  | single hsingle hmade => exact .single hsingle (himp _ _ hmade)
  | kept hlists hsingle => exact .kept hlists hsingle

section Inner

variable {F : Value → Remembering Value} {o r : Option Value} (place : Place)

theorem rebuiltIn_of_rebuildList (hF : ∀ v, OnlyAsks answer (F v))
    (h : (rebuildList F o).run calls = (.ok r, calls')) (hlists : place.lists)
    (hsingle : ∀ es, place.single → o ≠ some (.map es)) :
    RebuiltIn (fun v w => Meanwhile calls calls' (F v) w) place o (r.or o) ∧
      (r.isSome → o.isSome) := by
  unfold rebuildList at h
  split at h
  · next vs =>
    obtain ⟨ws, between, hws, h⟩ := run_bind_kept_eq_ok h
    obtain ⟨hr, rfl⟩ := Prod.mk.inj h
    obtain rfl := Except.ok.inj hr
    exact ⟨.list hlists (meanwhile_mapM hF hws), fun _ => rfl⟩
  · next hother =>
    obtain rfl := Except.ok.inj (Prod.mk.inj h).1
    exact ⟨.kept (fun vs _ => hother vs) hsingle, fun hr => absurd hr (by simp)⟩

theorem rebuiltIn_of_rebuildMap (h : (rebuildMap F o).run calls = (.ok r, calls'))
    (hlists : ∀ vs, place.lists → o ≠ some (.list vs)) (hsingle : place.single) :
    RebuiltIn (fun v w => Meanwhile calls calls' (F v) w) place o (r.or o) ∧
      (r.isSome → o.isSome) := by
  unfold rebuildMap at h
  split at h
  · next es =>
    obtain ⟨w, between, hw, h⟩ := run_bind_kept_eq_ok h
    obtain ⟨hr, rfl⟩ := Prod.mk.inj h
    obtain rfl := Except.ok.inj hr
    exact ⟨.single hsingle (meanwhile_of_run hw), fun _ => rfl⟩
  · next hother =>
    obtain rfl := Except.ok.inj (Prod.mk.inj h).1
    exact ⟨.kept hlists fun es _ => hother es, fun hr => absurd hr (by simp)⟩

theorem rebuiltIn_of_rebuildItems (hF : ∀ v, OnlyAsks answer (F v))
    (h : (rebuildItems F o).run calls = (.ok r, calls')) (hlists : place.lists)
    (hsingle : place.single) :
    RebuiltIn (fun v w => Meanwhile calls calls' (F v) w) place o (r.or o) ∧
      (r.isSome → o.isSome) := by
  unfold rebuildItems at h
  split at h
  · exact rebuiltIn_of_rebuildList place hF h hlists fun es _ => by simp
  · next hother => exact rebuiltIn_of_rebuildMap place h (fun vs _ => hother vs) hsingle

/-- **The schemas outside of the properties are rebuilt**, and nothing else is written. -/
theorem rebuiltIn_of_rebuildInner (hF : ∀ v, OnlyAsks answer (F v)) {inner : Inner}
    (h : (rebuildInner F es).run calls = (.ok inner, calls')) :
    (∀ place ∈ places, RebuiltIn (fun v w => Meanwhile calls calls' (F v) w) place
      (Entries.field? es place.name) (Entries.field? (inner.write es) place.name)) ∧
      (inner.write es).map (·.1) = es.map (·.1) := by
  obtain ⟨items, calls₁, hitems, h⟩ := run_bind_kept_eq_ok h
  obtain ⟨allOf, calls₂, hall, h⟩ := run_bind_kept_eq_ok h
  obtain ⟨oneOf, calls₃, hone, h⟩ := run_bind_kept_eq_ok h
  obtain ⟨anyOf, calls₄, hany, h⟩ := run_bind_kept_eq_ok h
  obtain ⟨additional, calls₅, hadd, h⟩ := run_bind_kept_eq_ok h
  obtain ⟨hinner, rfl⟩ := Prod.mk.inj h
  obtain rfl := Except.ok.inj hinner
  have h₁ := (onlyAsks_rebuildItems hF _).of_run hitems
  have h₂ := (onlyAsks_rebuildList hF _).of_run hall
  have h₃ := (onlyAsks_rebuildList hF _).of_run hone
  have h₄ := (onlyAsks_rebuildList hF _).of_run hany
  have h₅ := (onlyAsks_rebuildMap hF _).of_run hadd
  -- each part is one of the whole computation
  have hpart {before after : List Call} (hbefore : calls <:+ before) (hafter : after <:+ calls₅)
      (v w : Value) (hmade : Meanwhile before after (F v) w) : Meanwhile calls calls₅ (F v) w :=
    hmade.mono hbefore hafter
  obtain ⟨ritems, sitems⟩ := rebuiltIn_of_rebuildItems ⟨"items", true, true⟩ hF hitems rfl rfl
  obtain ⟨rall, sall⟩ := rebuiltIn_of_rebuildList ⟨"allOf", true, false⟩ hF hall rfl (by simp)
  obtain ⟨rone, sone⟩ := rebuiltIn_of_rebuildList ⟨"oneOf", true, false⟩ hF hone rfl (by simp)
  obtain ⟨rany, sany⟩ := rebuiltIn_of_rebuildList ⟨"anyOf", true, false⟩ hF hany rfl (by simp)
  obtain ⟨radd, sadd⟩ :=
    rebuiltIn_of_rebuildMap ⟨"additionalProperties", false, true⟩ hadd (by simp) rfl
  constructor
  · simp only [places, List.forall_mem_cons, Inner.write, field?_replaceField, String.reduceEq,
      if_true, if_false, List.not_mem_nil, false_imp_iff, implies_true, and_true]
    exact ⟨ritems.imp (hpart (List.suffix_refl _) (h₂.trans (h₃.trans (h₄.trans h₅)))),
      rall.imp (hpart h₁ (h₃.trans (h₄.trans h₅))), rone.imp (hpart (h₁.trans h₂) (h₄.trans h₅)),
      rany.imp (hpart (h₁.trans (h₂.trans h₃)) h₅),
      radd.imp (hpart (h₁.trans (h₂.trans (h₃.trans h₄))) (List.suffix_refl _))⟩
  · rw [Inner.write, keys_replaceField, keys_replaceField, keys_replaceField, keys_replaceField,
      keys_replaceField]
    all_goals simpa only [field?_replaceField, String.reduceEq, if_false]

end Inner

/-! ### What stands in the places -/

theorem exists_of_isMap (h : v.isMap) : ∃ es, v = .map es := by
  cases v with
  | map es => exact ⟨es, rfl⟩
  | _ => simp [Value.isMap] at h

/-- The schemas that a place holds with a value. -/
def schemasIn (place : Place) : Value → List Value
  | .list vs => if place.lists then vs else []
  | .map es => if place.single then [.map es] else []
  | _ => []

theorem mem_schemasIn_items_iff (hmap : v.isMap) :
    v ∈ schemasIn ⟨"items", true, true⟩ w ↔ v ∈ itemSchemas w := by
  cases w with
  | list vs => exact Iff.rfl
  | map es => exact Iff.rfl
  | _ =>
    refine iff_of_false List.not_mem_nil fun h => ?_
    rw [List.mem_singleton.1 h] at hmap
    simp [Value.isMap] at hmap

theorem schemasIn_combined (es : Entries) (name : String) :
    schemasIn ⟨name, true, false⟩ (valueField es name) = listField es name := by
  rw [listField_eq]
  cases valueField es name <;> rfl

theorem mem_schemasIn_additional_iff (hmap : v.isMap) :
    v ∈ schemasIn ⟨"additionalProperties", false, true⟩ w ↔ v = w := by
  cases w with
  | map es => exact List.mem_singleton
  | _ =>
    refine iff_of_false List.not_mem_nil fun h => ?_
    rw [h] at hmap
    simp [Value.isMap] at hmap

/-- What is no value for a place holds no schemas in it. -/
theorem schemasIn_eq_nil {place : Place} {o : Option Value}
    (hlists : ∀ vs, place.lists → o ≠ some (.list vs))
    (hsingle : ∀ es, place.single → o ≠ some (.map es)) :
    schemasIn place (o.getD .null) = [] := by
  cases o with
  | none => rfl
  | some v =>
    cases v with
    | list vs => exact if_neg fun h => hlists vs h rfl
    | map es => exact if_neg fun h => hsingle es h rfl
    | _ => rfl

/-- **The mappings that the pass goes through** are those of the places and the properties. -/
theorem mem_walkedIn_iff (hmap : v.isMap) :
    v ∈ walkedIn (.map es) ↔
      (∃ place ∈ places, v ∈ schemasIn place (valueField es place.name)) ∨
        ∃ e ∈ mapField es "properties", e.2 = v := by
  simp only [places, walkedIn, List.mem_append, List.mem_cons, List.mem_map, List.not_mem_nil,
    or_false, or_and_right, exists_or, exists_eq_left, mem_schemasIn_items_iff hmap,
    schemasIn_combined, mem_schemasIn_additional_iff hmap, or_assoc]

theorem exists_of_mem_forall₂ {α β : Type} {R : α → β → Prop} {l : List α} {l' : List β} {b : β}
    (h : List.Forall₂ R l l') (hb : b ∈ l') : ∃ a ∈ l, R a b := by
  induction h with
  | nil => simp at hb
  | cons hfirst _ ih =>
    rcases List.mem_cons.1 hb with rfl | hb
    · exact ⟨_, List.mem_cons_self, hfirst⟩
    · obtain ⟨a, ha, hab⟩ := ih hb
      exact ⟨a, List.mem_cons_of_mem _ ha, hab⟩

/-- What a place holds after the pass has been made of what it has held. -/
theorem RebuiltIn.exists_of_mem {R : Value → Value → Prop} {place : Place} {o o' : Option Value}
    (h : RebuiltIn R place o o') (hR : ∀ es w, R (.map es) w → w.isMap)
    (hw : w ∈ schemasIn place (o'.getD .null)) :
    ∃ v ∈ schemasIn place (o.getD .null), R v w := by
  cases h with
  | @list vs ws hlists hall =>
    simp only [Option.getD_some, schemasIn, hlists, if_true] at hw ⊢
    exact exists_of_mem_forall₂ hall hw
  | @single es w' hsingle hmade =>
    obtain ⟨fs, rfl⟩ := exists_of_isMap (hR es w' hmade)
    simp only [Option.getD_some, schemasIn, hsingle, if_true, List.mem_singleton] at hw ⊢
    exact ⟨_, rfl, hw ▸ hmade⟩
  | kept hlists hsingle =>
    rw [schemasIn_eq_nil hlists hsingle] at hw
    exact absurd hw List.not_mem_nil

/-- Something has been made of all that a place has held. -/
theorem RebuiltIn.exists_rebuilt {R : Value → Value → Prop} {place : Place} {o o' : Option Value}
    (h : RebuiltIn R place o o') (hv : v ∈ schemasIn place (o.getD .null)) : ∃ w, R v w := by
  cases h with
  | @list vs ws hlists hall =>
    simp only [Option.getD_some, schemasIn, hlists, if_true] at hv
    obtain ⟨w, -, hw⟩ := exists_of_mem_forall₂ hall.flip hv
    exact ⟨w, hw⟩
  | @single es w hsingle hmade =>
    simp only [Option.getD_some, schemasIn, hsingle, if_true, List.mem_singleton] at hv
    exact ⟨w, hv ▸ hmade⟩
  | kept hlists hsingle =>
    rw [schemasIn_eq_nil hlists hsingle] at hv
    exact absurd hv List.not_mem_nil

end ApiTypes.Hook
