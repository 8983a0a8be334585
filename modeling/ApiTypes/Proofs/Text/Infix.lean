import Mathlib.Data.List.Infix
import ApiTypes.Text.Blank

/-!
# What stands inside of a text

`ApiTypes.Text.contains` looks for a text inside another one
(`ApiTypes.Text.contains_iff`).

An end marker of a comment is two characters in a row, and so is an empty pair of
parentheses. `ApiTypes.Text.HasPair` says that one element of a list stands directly in
front of another one, and this file follows such pairs through the operations on texts:
replacing a pair, cutting a text into lines, trimming and joining. A text made of pieces
has a pair if a piece has it or if it stands across the border of two pieces
(`ApiTypes.Text.hasPair_append`).
-/

namespace ApiTypes.Text

/-- Whether all characters of a text are of some kind is decided along the text, and not by
going through all characters that there are. -/
instance decidableForallMem (P : Char → Prop) [DecidablePred P] (t : Text) :
    Decidable (∀ c ∈ t, P c) :=
  List.decidableBAll P t

theorem contains_iff {needle t : Text} : contains needle t ↔ needle <:+: t := by
  induction t with
  | nil => simp [contains]
  | cons c t ih =>
    rw [contains, Bool.or_eq_true, ih, List.infix_cons_iff, List.isPrefixOf_iff_prefix]

/-! ### Pairs in lists -/

section Pairs

variable {α : Type} {a b : α}

/-- **A pair**: `a` stands directly in front of `b` somewhere in the list. -/
def HasPair (a b : α) (l : List α) : Prop := [a, b] <:+: l

instance [DecidableEq α] (l : List α) : Decidable (HasPair a b l) :=
  inferInstanceAs (Decidable ([a, b] <:+: l))

@[simp]
theorem not_hasPair_nil : ¬HasPair a b [] := by
  simp [HasPair]

theorem HasPair.mono {l m : List α} (h : HasPair a b l) (hlm : l <:+: m) : HasPair a b m :=
  List.IsInfix.trans h hlm

theorem not_hasPair_of_not_mem {l : List α} (h : b ∉ l) : ¬HasPair a b l :=
  fun hp => h (hp.subset (by simp))

theorem hasPair_cons {c : α} {l : List α} :
    HasPair a b (c :: l) ↔ (c = a ∧ l.head? = some b) ∨ HasPair a b l := by
  rw [HasPair, HasPair, List.infix_cons_iff, List.cons_prefix_cons, @eq_comm _ a c]
  cases l with
  | nil => simp
  | cons d l => simp [List.cons_prefix_cons, @eq_comm _ b d]

/-- **A pair in two pieces** is in one of them or across their border. -/
theorem hasPair_append {l m : List α} :
    HasPair a b (l ++ m) ↔
      HasPair a b l ∨ (l.getLast? = some a ∧ m.head? = some b) ∨ HasPair a b m := by
  induction l with
  | nil => simp
  | cons c l ih =>
    rw [List.cons_append, hasPair_cons, hasPair_cons, ih]
    cases l with
    | nil => simp
    | cons d l => simp [List.getLast?_cons_cons, or_assoc]

end Pairs

/-! ### Pairs in texts -/

variable {a b : Char}

/-- No occurrence of a pair is left, when what comes in its place begins with the first
character of the pair, does not end with it, and does not have the pair itself. -/
theorem not_hasPair_replacePair {new : Text} (hab : a ≠ b) (hhead : new.head? = some a)
    (hlast : new.getLast? ≠ some a) (hnew : ¬HasPair a b new) (t : Text) :
    ¬HasPair a b (replacePair a b new t) := by
  fun_induction replacePair a b new t with
  | case1 => exact not_hasPair_nil
  | case2 c => simp [hasPair_cons]
  | case3 c d rest h ih =>
    rw [hasPair_append]
    rintro (hn | ⟨hl, -⟩ | hr)
    · exact hnew hn
    · exact hlast hl
    · exact ih hr
  | case4 c d rest hcd ih =>
    rw [hasPair_cons]
    rintro (⟨rfl, h⟩ | h)
    · -- what follows begins with `d` or, where it was replaced, with `a`
      have hd : d ≠ b := fun hd => hcd ⟨rfl, hd⟩
      cases rest with
      | nil => exact hd (by simpa [replacePair] using h)
      | cons e rest =>
        rw [replacePair] at h
        split at h
        · rw [List.head?_append, hhead] at h
          exact hab (Option.some.inj h)
        · exact hd (Option.some.inj h)
    · exact ih h

/-- A character of a text is in one of its pieces, if the text is not split there. -/
theorem exists_mem_split {sep c : Char} {t : Text} (hc : c ≠ sep) (h : c ∈ t) :
    ∃ u ∈ split sep t, c ∈ u := by
  induction t with
  | nil => exact absurd h (by simp)
  | cons d t ih =>
    obtain ⟨v, vs, hv⟩ := List.exists_cons_of_ne_nil (split_ne_nil sep t)
    rw [split]
    rcases List.mem_cons.1 h with rfl | h
    · rw [if_neg hc, hv]
      exact ⟨c :: v, by simp [consHead], by simp⟩
    · obtain ⟨u, hu, hcu⟩ := ih h
      split
      · exact ⟨u, List.mem_cons_of_mem _ hu, hcu⟩
      · rw [hv] at hu ⊢
        rcases List.mem_cons.1 hu with rfl | hu
        · exact ⟨d :: u, by simp [consHead], List.mem_cons_of_mem _ hcu⟩
        · exact ⟨u, List.mem_cons_of_mem _ hu, hcu⟩

/-- The pieces of a split text occur in it. -/
theorem infix_of_mem_split {sep : Char} {t u : Text} (h : u ∈ split sep t) : u <:+: t := by
  -- the first piece is even a prefix, which the next character in front of it needs
  suffices ∀ v vs, split sep t = v :: vs → v <+: t ∧ ∀ w ∈ vs, w <:+: t by
    obtain ⟨v, vs, hv⟩ := List.exists_cons_of_ne_nil (split_ne_nil sep t)
    obtain ⟨hp, hi⟩ := this v vs hv
    rw [hv] at h
    rcases List.mem_cons.1 h with rfl | h
    · exact hp.isInfix
    · exact hi u h
  clear h u
  induction t with
  | nil =>
    intro v vs h
    obtain ⟨rfl, rfl⟩ : [] = v ∧ [] = vs := by simpa [split] using h
    simp
  | cons c t ih =>
    intro v vs h
    obtain ⟨x, xs, hx⟩ := List.exists_cons_of_ne_nil (split_ne_nil sep t)
    obtain ⟨hp, hi⟩ := ih x xs hx
    rw [split, hx] at h
    split at h
    · obtain ⟨rfl, rfl⟩ : [] = v ∧ x :: xs = vs := by simpa using h
      refine ⟨List.nil_prefix, fun w hw => ?_⟩
      rcases List.mem_cons.1 hw with rfl | hw
      · exact hp.isInfix.trans (List.infix_cons_iff.2 (.inr List.infix_rfl))
      · exact (hi w hw).trans (List.infix_cons_iff.2 (.inr List.infix_rfl))
    · obtain ⟨rfl, rfl⟩ : c :: x = v ∧ xs = vs := by simpa [consHead] using h
      refine ⟨List.cons_prefix_cons.2 ⟨rfl, hp⟩, fun w hw => ?_⟩
      exact (hi w hw).trans (List.infix_cons_iff.2 (.inr List.infix_rfl))

theorem trimEnd_prefix (t : Text) : trimEnd t <+: t := by
  rw [← List.reverse_suffix, trimEnd, List.reverse_reverse]
  exact List.dropWhile_suffix isBlank

/-- A pair in a joined text is in one of its pieces, when the separator has none and none
can stand across its borders. -/
theorem not_hasPair_join {sep : Text} (hsep : ¬HasPair a b sep) (hne : sep ≠ [])
    (hhead : sep.head? ≠ some b) (hlast : sep.getLast? ≠ some a) {ts : List Text}
    (h : ∀ t ∈ ts, ¬HasPair a b t) : ¬HasPair a b (join sep ts) := by
  fun_induction join sep ts with
  | case1 => exact not_hasPair_nil
  | case2 t => exact h t (by simp)
  | case3 t u us ih =>
    rw [List.append_assoc, hasPair_append, hasPair_append]
    rintro (ht | ⟨-, ht⟩ | hs | ⟨hs, -⟩ | hj)
    · exact h t (by simp) ht
    · rw [List.head?_append_of_ne_nil _ hne] at ht
      exact hhead ht
    · exact hsep hs
    · exact hlast hs
    · exact ih (fun v hv => h v (List.mem_cons_of_mem _ hv)) hj

end ApiTypes.Text
