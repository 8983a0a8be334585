import ApiTypes.Text.Blank
import Mathlib.Data.List.TakeWhile

/-!
# What trimming and replacing do

The operations on texts are written as they are computed. Here is what they come to, without
how they do it:

| operation | what it comes to |
|---|---|
| `ApiTypes.Text.trimEnd` | `ApiTypes.Text.TrimmedEnd` |
| `ApiTypes.Text.trim` | `ApiTypes.Text.Trimmed` |
| `ApiTypes.Text.replacePair` | `ApiTypes.Text.Replaced` |

Each of these leaves one result only, which is that of the operation
(`ApiTypes.Text.trimmedEnd_iff`, `ApiTypes.Text.trimmed_iff`, `ApiTypes.Text.replaced_iff`).
-/

namespace ApiTypes.Text

variable {t u : Text}

/-! ### White space -/

/-- **A text without the white space behind it**: nothing but white space is gone, and there is
none left at the end. -/
structure TrimmedEnd (t u : Text) : Prop where
  /-- What is gone was white space at the end. -/
  gone : ∃ r, t = u ++ r ∧ ∀ c ∈ r, isBlank c
  /-- The end is no white space. -/
  last : ∀ c ∈ u.getLast?, ¬isBlank c

/-- **A text without the white space around it**: nothing but white space is gone, and there is
none left at either end. -/
structure Trimmed (t u : Text) : Prop where
  /-- What is gone was white space at the ends. -/
  gone : ∃ l r, t = l ++ (u ++ r) ∧ (∀ c ∈ l, isBlank c) ∧ ∀ c ∈ r, isBlank c
  /-- The front is no white space. -/
  first : ∀ c ∈ u.head?, ¬isBlank c
  /-- The end is no white space. -/
  last : ∀ c ∈ u.getLast?, ¬isBlank c

/-- What is left behind the longest run of characters of a kind does not begin with one. -/
theorem not_head_dropWhile (p : Char → Bool) (t : Text) : ∀ c ∈ (t.dropWhile p).head?, ¬p c := by
  intro c hc
  have hnot := List.head?_dropWhile_not p t
  rw [hc] at hnot
  simpa using hnot

theorem not_isBlank_head_trimStart (t : Text) : ∀ c ∈ (trimStart t).head?, ¬isBlank c :=
  not_head_dropWhile isBlank t

theorem trimStart_append {l : Text} (h : ∀ c ∈ l, isBlank c) (t : Text) :
    trimStart (l ++ t) = trimStart t := by
  rw [trimStart, List.dropWhile_append_of_pos h, trimStart]

/-- A text that does not begin with white space stays. -/
theorem trimStart_eq_self (h : ∀ c ∈ t.head?, ¬isBlank c) : trimStart t = t := by
  cases t with
  | nil => rfl
  | cons c t => rw [trimStart, List.dropWhile_cons_of_neg (h c rfl)]

/-- Trimming the end is trimming the front of the reversed text. -/
theorem trimEnd_eq_reverse (t : Text) : trimEnd t = (trimStart t.reverse).reverse := rfl

/-- **What trimming the end comes to.** -/
theorem trimmedEnd_iff : TrimmedEnd t u ↔ trimEnd t = u := by
  constructor
  · rintro ⟨⟨r, rfl, hr⟩, hlast⟩
    have hblank : ∀ c ∈ r.reverse, isBlank c := fun c hc => hr c (List.mem_reverse.1 hc)
    have hfirst : ∀ c ∈ u.reverse.head?, ¬isBlank c := by rwa [List.head?_reverse]
    rw [trimEnd_eq_reverse, List.reverse_append, trimStart_append hblank,
      trimStart_eq_self hfirst, List.reverse_reverse]
  · rintro rfl
    refine ⟨⟨(t.reverse.takeWhile isBlank).reverse, ?_, fun c hc => ?_⟩, ?_⟩
    · rw [trimEnd, ← List.reverse_append, List.takeWhile_append_dropWhile, List.reverse_reverse]
    · exact List.mem_takeWhile_imp (List.mem_reverse.1 hc)
    · rw [trimEnd_eq_reverse, List.getLast?_reverse]
      exact not_isBlank_head_trimStart t.reverse

/-- **What trimming comes to.** -/
theorem trimmed_iff : Trimmed t u ↔ trim t = u := by
  constructor
  · rintro ⟨⟨l, r, rfl, hl, hr⟩, hfirst, hlast⟩
    have hend : trimEnd (u ++ r) = u := trimmedEnd_iff.1 ⟨⟨r, rfl, hr⟩, hlast⟩
    rw [trim, trimStart_append hl]
    cases u with
    | nil =>
      -- nothing but white space was there
      rw [List.nil_append, ← List.append_nil r, trimStart_append hr]
      rfl
    | cons c u =>
      rw [trimStart_eq_self (t := c :: u ++ r) hfirst, hend]
  · intro h
    obtain ⟨⟨r, hgone, hr⟩, hlast⟩ := trimmedEnd_iff.2 h
    refine ⟨⟨t.takeWhile isBlank, r, ?_, fun c hc => List.mem_takeWhile_imp hc, hr⟩, ?_, hlast⟩
    · rw [← hgone, trimStart, List.takeWhile_append_dropWhile]
    · intro c hc
      refine not_isBlank_head_trimStart t c ?_
      rw [hgone]
      cases u with
      | nil => exact nomatch hc
      | cons d u => exact hc

/-! ### Pairs -/

/-- **A text with every occurrence of a pair replaced**: the pair `a`, `b` becomes `new`, and every
character that does not begin such a pair stays. -/
inductive Replaced (a b : Char) (new : Text) : Text → Text → Prop
  /-- Nothing is left. -/
  | nil : Replaced a b new [] []
  /-- The pair. -/
  | pair {t u : Text} : Replaced a b new t u → Replaced a b new (a :: b :: t) (new ++ u)
  /-- A character that does not begin it. -/
  | char {c : Char} {t u : Text} : ¬(c = a ∧ t.head? = some b) → Replaced a b new t u →
      Replaced a b new (c :: t) (c :: u)

variable {a b : Char} {new : Text}

theorem replacePair_cons_of_not {c : Char} (h : ¬(c = a ∧ t.head? = some b)) :
    replacePair a b new (c :: t) = c :: replacePair a b new t := by
  cases t with
  | nil => rfl
  | cons d t =>
    rw [replacePair, if_neg fun hcd => h ⟨hcd.1, congrArg some hcd.2⟩]

/-- **What replacing a pair comes to.** -/
theorem replaced_iff : Replaced a b new t u ↔ replacePair a b new t = u := by
  constructor
  · intro h
    induction h with
    | nil => rfl
    | pair _ ih => rw [replacePair_pair, ih]
    | char hc _ ih => rw [replacePair_cons_of_not hc, ih]
  · rintro rfl
    fun_induction replacePair a b new t with
    | case1 => exact .nil
    | case2 c => exact .char (by simp) .nil
    | case3 c d rest h ih =>
      obtain ⟨rfl, rfl⟩ := h
      exact .pair ih
    | case4 c d rest h ih => exact .char (by simpa using h) ih

/-- What is replaced is not looked at again. -/
example : replacePair '*' '/' ['*', '\\', '/'] ['*', '*', '/', '/'] =
    ['*', '*', '\\', '/', '/'] := by
  decide

end ApiTypes.Text
