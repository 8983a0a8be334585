import ApiTypes.Hook.Rule
import ApiTypes.Proofs.Failing
import ApiTypes.Proofs.Hook.Level
import Mathlib.Data.List.Forall2
import Mathlib.Data.List.Infix

/-!
# Hooks that remember

What a hook answers may depend on all that it has been asked before: it may have a state of its
own, and it may refuse any call. Such a hook is a function of the calls so far, the latest of them
first (`ApiTypes.Hook.remembering`). A hook that is recorded is one of them
(`ApiTypes.Hook.recorded_eq_remembering`).

A computation with such a hook is begun with the calls of before, and it ends with more of them in
front, the last of which the hook has refused if the computation fails (`ApiTypes.Hook.OnlyAsks`).
So the calls at the end say of each call what had been asked before it: that is what stands behind
it. A result that a part of a computation has come to is one that this part has from some calls in
between (`ApiTypes.Hook.Meanwhile`).
-/

namespace ApiTypes.Hook

/-- Computations with a hook that remembers its calls, the latest first. -/
abbrev Remembering := ExceptT Failure (StateM (List Call))

/-- **A hook that remembers**: it answers by all calls so far, of which the one that it is asked
now is the first. -/
def remembering (answer : List Call → Except Failure View) : Hook Remembering :=
  fun property view => do
    modify fun calls => ⟨property, view⟩ :: calls
    match answer (← get) with
    | .ok view => pure view
    | .error e => throw e

/-- A hook that is recorded does not look at the calls of before. -/
theorem recorded_eq_remembering (hook : Hook (Except Failure)) :
    recorded hook = remembering fun
      | c :: _ => hook c.property c.view
      | [] => hook [] (viewOf none [] []) := rfl

variable {α β : Type} {answer : List Call → Except Failure View} {calls calls' : List Call}
  {x : Remembering α} {f : α → Remembering β}

theorem run_remembering (property : Entries) (view : View) (calls : List Call) :
    (remembering answer property view).run calls =
      (answer (⟨property, view⟩ :: calls), ⟨property, view⟩ :: calls) := by
  rw [remembering, run_bind_kept]
  change ((do
    match answer (← get) with
    | .ok view => pure view
    | .error e => throw e : Remembering View)).run (⟨property, view⟩ :: calls) = _
  rw [run_bind_kept]
  change (match answer (⟨property, view⟩ :: calls) with
    | .ok view => (pure view : Remembering View)
    | .error e => throw e).run (⟨property, view⟩ :: calls) = _
  cases answer (⟨property, view⟩ :: calls) <;> rfl

/-! ### The calls of a computation -/

/-- **A computation only asks the hook**: its calls are new ones, in front of those of before, and
it fails only because the hook refuses the last of them. -/
structure OnlyAsks (answer : List Call → Except Failure View) (x : Remembering α) : Prop where
  /-- The calls of before stay. -/
  suffix : ∀ calls, calls <:+ (x.run calls).2
  /-- A failure is the refusal of the last call. -/
  refused : ∀ calls e, (x.run calls).1 = .error e →
    ∃ c before, (x.run calls).2 = c :: before ∧ calls <:+ before ∧ answer (c :: before) = .error e

theorem OnlyAsks.of_run (hx : OnlyAsks answer x) {r : Except Failure α}
    (h : x.run calls = (r, calls')) : calls <:+ calls' := by
  have hsuffix := hx.suffix calls
  rwa [h] at hsuffix

theorem onlyAsks_pure (a : α) : OnlyAsks answer (pure a : Remembering α) where
  suffix := fun _ => List.suffix_refl _
  refused := fun _ _ h => nomatch h

theorem OnlyAsks.bind (hx : OnlyAsks answer x) (hf : ∀ a, OnlyAsks answer (f a)) :
    OnlyAsks answer (x >>= f) where
  suffix := by
    intro calls
    rw [run_bind_kept]
    split
    · next a between heq => exact (hx.of_run heq).trans ((hf a).suffix between)
    · next e between heq => exact hx.of_run heq
  refused := by
    intro calls e
    rw [run_bind_kept]
    split
    · next a between heq =>
      intro he
      obtain ⟨c, before, hlast, hbefore, hrefused⟩ := (hf a).refused between e he
      exact ⟨c, before, hlast, (hx.of_run heq).trans hbefore, hrefused⟩
    · next e' between heq =>
      intro he
      obtain rfl : e' = e := Except.error.inj he
      have hfirst := hx.refused calls e'
      rw [heq] at hfirst
      exact hfirst rfl

theorem OnlyAsks.mapM (hf : ∀ a, OnlyAsks answer (f a)) (l : List α) :
    OnlyAsks answer (l.mapM f) := by
  induction l with
  | nil => exact onlyAsks_pure _
  | cons a l ih =>
    rw [List.mapM_cons]
    exact (hf a).bind fun b => ih.bind fun bs => onlyAsks_pure _

theorem onlyAsks_remembering (property : Entries) (view : View) :
    OnlyAsks answer (remembering answer property view) where
  suffix := by
    intro calls
    rw [run_remembering]
    exact List.suffix_cons _ _
  refused := by
    intro calls e
    rw [run_remembering]
    exact fun he => ⟨_, calls, rfl, List.suffix_refl _, he⟩

section Pass

variable {F : Value → Remembering Value}

theorem onlyAsks_rebuildList (hF : ∀ v, OnlyAsks answer (F v)) (o : Option Value) :
    OnlyAsks answer (rebuildList F o) := by
  unfold rebuildList
  split
  · exact (OnlyAsks.mapM hF _).bind fun _ => onlyAsks_pure _
  · exact onlyAsks_pure _

theorem onlyAsks_rebuildMap (hF : ∀ v, OnlyAsks answer (F v)) (o : Option Value) :
    OnlyAsks answer (rebuildMap F o) := by
  unfold rebuildMap
  split
  · exact (hF _).bind fun _ => onlyAsks_pure _
  · exact onlyAsks_pure _

theorem onlyAsks_rebuildItems (hF : ∀ v, OnlyAsks answer (F v)) (o : Option Value) :
    OnlyAsks answer (rebuildItems F o) := by
  unfold rebuildItems
  split
  · exact onlyAsks_rebuildList hF _
  · exact onlyAsks_rebuildMap hF _

theorem onlyAsks_rebuildInner (hF : ∀ v, OnlyAsks answer (F v)) (es : Entries) :
    OnlyAsks answer (rebuildInner F es) :=
  (onlyAsks_rebuildItems hF _).bind fun _ => (onlyAsks_rebuildList hF _).bind fun _ =>
    (onlyAsks_rebuildList hF _).bind fun _ => (onlyAsks_rebuildList hF _).bind fun _ =>
      (onlyAsks_rebuildMap hF _).bind fun _ => onlyAsks_pure _

theorem onlyAsks_rebuildProperties (hF : ∀ v, OnlyAsks answer (F v)) (properties : Entries) :
    OnlyAsks answer (rebuildProperties F properties) := by
  rw [rebuildProperties]
  exact OnlyAsks.mapM (fun e => (hF e.2).bind fun _ => onlyAsks_pure _) properties

theorem onlyAsks_mapProperties (required : Option (List Text)) (properties : Entries) :
    OnlyAsks answer (mapProperties (remembering answer) required properties) := by
  induction properties generalizing required with
  | nil => exact onlyAsks_pure _
  | cons e rest ih =>
    obtain ⟨key, property⟩ := e
    rw [mapProperties]
    split
    · exact (ih _).bind fun _ => onlyAsks_pure _
    · exact (onlyAsks_remembering _ _).bind fun _ => (ih _).bind fun _ => onlyAsks_pure _

theorem onlyAsks_mapSchemaAt (n : Nat) (schema : Value) :
    OnlyAsks answer (mapSchemaAt (remembering answer) n schema) := by
  induction n generalizing schema with
  | zero =>
    unfold mapSchemaAt
    exact onlyAsks_pure _
  | succ n ih =>
    cases schema with
    | map es =>
      rw [mapSchemaAt, rebuildLevel_eq]
      refine OnlyAsks.bind ((onlyAsks_rebuildInner ih es).bind fun inner => ?_)
        fun _ => onlyAsks_pure _
      split
      · exact (onlyAsks_rebuildProperties ih _).bind fun _ =>
          (onlyAsks_mapProperties _ _).bind fun _ => onlyAsks_pure _
      · exact onlyAsks_pure _
    | _ =>
      unfold mapSchemaAt
      exact onlyAsks_pure _

theorem onlyAsks_mapSchema (schema : Value) :
    OnlyAsks answer (mapSchema (remembering answer) schema) :=
  onlyAsks_mapSchemaAt schema.depth schema

end Pass

/-- **The hook answers** each of the calls that have come after some others. -/
def Answers (answer : List Call → Except Failure View) (calls calls' : List Call) : Prop :=
  ∀ c before, calls <:+ before → c :: before <:+ calls' → ∃ view, answer (c :: before) = .ok view

/-- A computation that only asks comes to a result if it is answered. -/
theorem OnlyAsks.exists_of_answers (hx : OnlyAsks answer x)
    (h : Answers answer calls (x.run calls).2) : ∃ a, x.run calls = (.ok a, (x.run calls).2) := by
  cases hresult : (x.run calls).1 with
  | ok a => exact ⟨a, Prod.ext hresult rfl⟩
  | error e =>
    obtain ⟨c, before, hlast, hbefore, hrefused⟩ := hx.refused calls e hresult
    obtain ⟨view, hview⟩ := h c before hbefore (hlast ▸ List.suffix_refl _)
    rw [hrefused] at hview
    exact nomatch hview

/-! ### Parts of a computation -/

/-- **A part of a computation has come to a result**: begun with some calls in between. -/
def Meanwhile (calls calls' : List Call) (x : Remembering α) (a : α) : Prop :=
  ∃ before after, calls <:+ before ∧ x.run before = (.ok a, after) ∧ after <:+ calls'

theorem Meanwhile.mono {earlier later : List Call} {a : α} (h : Meanwhile calls calls' x a)
    (hearlier : earlier <:+ calls) (hlater : calls' <:+ later) : Meanwhile earlier later x a := by
  obtain ⟨before, after, hbefore, hx, hafter⟩ := h
  exact ⟨before, after, hearlier.trans hbefore, hx, hafter.trans hlater⟩

theorem meanwhile_of_run {a : α} (h : x.run calls = (.ok a, calls')) :
    Meanwhile calls calls' x a :=
  ⟨calls, calls', List.suffix_refl _, h, List.suffix_refl _⟩

theorem meanwhile_mapM (hf : ∀ a, OnlyAsks answer (f a)) {l : List α} {bs : List β}
    (h : (l.mapM f).run calls = (.ok bs, calls')) :
    List.Forall₂ (fun a b => Meanwhile calls calls' (f a) b) l bs := by
  induction l generalizing calls bs with
  | nil =>
    obtain rfl : [] = bs := Except.ok.inj (Prod.mk.inj h).1
    exact .nil
  | cons a l ih =>
    rw [List.mapM_cons] at h
    obtain ⟨b, between, hb, h⟩ := run_bind_kept_eq_ok h
    obtain ⟨rest, between', hrest, h⟩ := run_bind_kept_eq_ok h
    obtain ⟨hbs, rfl⟩ := Prod.mk.inj h
    obtain rfl := Except.ok.inj hbs
    have hfirst := (hf a).of_run hb
    have hlast := (OnlyAsks.mapM hf l).of_run hrest
    exact .cons ((meanwhile_of_run hb).mono (List.suffix_refl _) hlast)
      ((ih hrest).imp fun _ _ hmade => hmade.mono hfirst (List.suffix_refl _))

end ApiTypes.Hook
