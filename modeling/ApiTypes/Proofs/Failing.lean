import ApiTypes.Text.Basic

/-!
# Failing in known ways

A computation fails in known ways only (`ApiTypes.FailsOnly`) when every failure that it can end
in has a given property. One that is put together from others fails only as they do, so for a
reader of many parts the property is checked where a failure is raised, and nowhere else.

What a computation with a state can fail with depends on the state. So with one of these goes an
invariant, which holds of the state whenever a part of the computation begins or ends
(`ApiTypes.Safe`).
-/

namespace ApiTypes

variable {α β ε : Type} {P Q : ε → Prop}

/-- **A computation fails only** with failures that have the property `P`. -/
def FailsOnly (P : ε → Prop) (x : Except ε α) : Prop := ∀ e, x = .error e → P e

/-- The failure that a computation ends in, if it ends in one. -/
def failure? : Except ε α → Option ε
  | .ok _ => none
  | .error e => some e

theorem failure?_eq_some_iff {x : Except ε α} {e : ε} : failure? x = some e ↔ x = .error e := by
  cases x <;> simp [failure?]

@[simp]
theorem failsOnly_ok (P : ε → Prop) (a : α) : FailsOnly P (.ok a) :=
  fun _ h => absurd h (by simp)

@[simp]
theorem failsOnly_pure (P : ε → Prop) (a : α) : FailsOnly P (pure a : Except ε α) :=
  failsOnly_ok P a

@[simp]
theorem failsOnly_error {e : ε} : FailsOnly P (.error e : Except ε α) ↔ P e :=
  ⟨fun h => h e rfl, fun h _ he => Except.error.inj he ▸ h⟩

@[simp]
theorem failsOnly_throw {e : ε} : FailsOnly P (throw e : Except ε α) ↔ P e := failsOnly_error

/-- A computation that goes on with another one fails as the one or as the other. -/
@[simp]
theorem failsOnly_bind {x : Except ε α} {f : α → Except ε β} :
    FailsOnly P (x >>= f) ↔ FailsOnly P x ∧ ∀ a, x = .ok a → FailsOnly P (f a) := by
  cases x with
  | error e => simp [bind, Except.bind]
  | ok a => simp [bind, Except.bind]

@[simp]
theorem failsOnly_map {x : Except ε α} {f : α → β} :
    FailsOnly P (x.map f) ↔ FailsOnly P x := by
  cases x with
  | error e => simp [Except.map]
  | ok a => simp [Except.map]

@[simp]
theorem failsOnly_ite {c : Prop} [Decidable c] {x y : Except ε α} :
    FailsOnly P (if c then x else y) ↔ (c → FailsOnly P x) ∧ (¬c → FailsOnly P y) := by
  by_cases h : c
  · simp [h]
  · simp [h]

namespace FailsOnly

theorem mono {x : Except ε α} (h : FailsOnly P x) (hPQ : ∀ e, P e → Q e) : FailsOnly Q x :=
  fun e he => hPQ e (h e he)

theorem bind {x : Except ε α} {f : α → Except ε β} (h : FailsOnly P x)
    (hf : ∀ a, x = .ok a → FailsOnly P (f a)) : FailsOnly P (x >>= f) :=
  failsOnly_bind.2 ⟨h, hf⟩

theorem mapM {f : α → Except ε β} (hf : ∀ a, FailsOnly P (f a)) :
    ∀ l : List α, FailsOnly P (l.mapM f)
  | [] => failsOnly_ok P []
  | a :: l => by
    rw [List.mapM_cons]
    exact (hf a).bind fun b _ => (mapM hf l).bind fun bs _ => failsOnly_ok P (b :: bs)

end FailsOnly

/-! ### Computations with a state -/

section State

variable {σ : Type} {I : σ → Prop} {Q : α → Prop} {R : β → Prop}

/-- **A computation is safe**: begun in a state with `I`, it fails only with failures that have
`P`, and it ends in a state with `I` and with a result that has `Q`. -/
def Safe (I : σ → Prop) (P : ε → Prop) (Q : α → Prop) (x : StateT σ (Except ε) α) : Prop :=
  ∀ s, I s → FailsOnly P (x.run s) ∧ ∀ a s', x.run s = .ok (a, s') → I s' ∧ Q a

theorem safe_pure {a : α} (h : Q a) :
    Safe I P Q (pure a : StateT σ (Except ε) α) := by
  refine fun s hs => ⟨failsOnly_ok _ _, fun b s' hb => ?_⟩
  obtain ⟨rfl, rfl⟩ := Prod.mk.inj (Except.ok.inj hb)
  exact ⟨hs, h⟩

theorem safe_throw {e : ε} (h : P e) : Safe I P Q (throw e : StateT σ (Except ε) α) :=
  fun _ _ => ⟨failsOnly_error.2 h, fun _ _ hb => nomatch hb⟩

theorem safe_get : Safe I P I (get : StateT σ (Except ε) σ) := by
  refine fun s hs => ⟨failsOnly_ok _ _, fun b s' hb => ?_⟩
  obtain ⟨rfl, rfl⟩ := Prod.mk.inj (Except.ok.inj hb)
  exact ⟨hs, hs⟩

theorem safe_modifyGet {f : σ → α × σ} (h : ∀ s, I s → I (f s).2) :
    Safe I P (fun _ => True) (modifyGet f : StateT σ (Except ε) α) := by
  refine fun s hs => ⟨failsOnly_ok _ _, fun b s' hb => ?_⟩
  obtain ⟨-, rfl⟩ := Prod.mk.inj (Except.ok.inj hb)
  exact ⟨h s hs, trivial⟩

theorem safe_modify {f : σ → σ} (h : ∀ s, I s → I (f s)) :
    Safe I P (fun _ => True) (modify f : StateT σ (Except ε) PUnit) :=
  safe_modifyGet h

theorem safe_liftM {x : Except ε α} (h : FailsOnly P x) :
    Safe I P (fun _ => True) (liftM x : StateT σ (Except ε) α) := by
  intro s hs
  cases x with
  | error e => exact ⟨failsOnly_error.2 (h e rfl), fun _ _ hb => nomatch hb⟩
  | ok a =>
    refine ⟨failsOnly_ok _ _, fun b s' hb => ?_⟩
    obtain ⟨-, rfl⟩ := Prod.mk.inj (Except.ok.inj hb)
    exact ⟨hs, trivial⟩

namespace Safe

theorem mono {Q' : α → Prop} {x : StateT σ (Except ε) α} (h : Safe I P Q x)
    (hQ : ∀ a, Q a → Q' a) : Safe I P Q' x :=
  fun s hs => ⟨(h s hs).1, fun a s' ha => ((h s hs).2 a s' ha).imp_right (hQ a)⟩

theorem bind {x : StateT σ (Except ε) α} {f : α → StateT σ (Except ε) β} (hx : Safe I P Q x)
    (hf : ∀ a, Q a → Safe I P R (f a)) : Safe I P R (x >>= f) := by
  intro s hs
  rw [StateT.run_bind]
  cases hrun : x.run s with
  | error e => exact ⟨failsOnly_error.2 ((hx s hs).1 e hrun), fun _ _ hb => nomatch hb⟩
  | ok r =>
    obtain ⟨hs', ha⟩ := (hx s hs).2 r.1 r.2 hrun
    exact hf r.1 ha r.2 hs'

theorem map {x : StateT σ (Except ε) α} {f : α → β} (hx : Safe I P Q x)
    (hf : ∀ a, Q a → R (f a)) : Safe I P R (f <$> x) := by
  rw [map_eq_pure_bind]
  exact hx.bind fun a ha => safe_pure (hf a ha)

/-! What is done for every item of a list is safe if it is safe for one. -/

theorem forM {f : α → StateT σ (Except ε) PUnit} (h : ∀ a, Safe I P (fun _ => True) (f a)) :
    ∀ l : List α, Safe I P (fun _ => True) (l.forM f)
  | [] => safe_pure trivial
  | a :: l => (h a).bind fun _ _ => forM h l

theorem mapM {f : α → StateT σ (Except ε) β} (h : ∀ a, Safe I P (fun _ => True) (f a)) :
    ∀ l : List α, Safe I P (fun _ => True) (l.mapM f)
  | [] => safe_pure trivial
  | a :: l => by
    rw [List.mapM_cons]
    exact (h a).bind fun _ _ => (mapM h l).bind fun _ _ => safe_pure trivial

theorem foldlM {f : β → α → StateT σ (Except ε) β} (h : ∀ b a, Safe I P (fun _ => True) (f b a)) :
    ∀ (l : List α) (b : β), Safe I P (fun _ => True) (l.foldlM f b)
  | [], _ => safe_pure trivial
  | a :: l, b => (h b a).bind fun b' _ => foldlM h l b'

end Safe

end State

/-! ### Computations whose state stays when they fail -/

section Kept

variable {σ : Type} {x : ExceptT ε (StateM σ) α} {f : α → ExceptT ε (StateM σ) β} {s t : σ}

theorem run_bind_kept (x : ExceptT ε (StateM σ) α) (f : α → ExceptT ε (StateM σ) β) (s : σ) :
    ExceptT.run (x >>= f) s =
      match ExceptT.run x s with
      | (.ok a, t) => ExceptT.run (f a) t
      | (.error e, t) => (.error e, t) := by
  change (match ExceptT.run x s with | (r, t) => ExceptT.bindCont f r t) = _
  obtain ⟨r, t⟩ := ExceptT.run x s
  cases r <;> rfl

theorem run_bind_kept_eq_ok {b : β} (h : ExceptT.run (x >>= f) s = (.ok b, t)) :
    ∃ a u, ExceptT.run x s = (.ok a, u) ∧ ExceptT.run (f a) u = (.ok b, t) := by
  rw [run_bind_kept] at h
  split at h
  · next a u hx => exact ⟨a, u, hx, h⟩
  · exact absurd (Prod.mk.inj h).1 (by simp)

end Kept

end ApiTypes
