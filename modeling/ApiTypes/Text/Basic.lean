/-!
# Text as a list of characters

Everything that is generated, scanned or checked character by character is a
`ApiTypes.Text`, a list of characters; a `String` appears only at the edges. This
file holds the few operations that the rest of the library is built from:

| operation | what it does |
|---|---|
| `ApiTypes.Text.replacePair` | replaces every occurrence of a two-character pattern |
| `ApiTypes.Text.split` | cuts a text at every occurrence of a character |
| `ApiTypes.Text.join` | puts a separator between the texts of a list |
| `ApiTypes.Text.contains` | looks for a text inside another one |

Splitting and joining are inverse to each other
(`ApiTypes.Text.join_split`, `ApiTypes.Text.split_join`), and a text never splits into
nothing (`ApiTypes.Text.split_ne_nil`).
-/

namespace ApiTypes

/-- A text, as the list of its characters. -/
abbrev Text := List Char

namespace Text

instance (t : Text) (ts : List Text) : Decidable (t ∈ ts) := List.instDecidableMemOfLawfulBEq t ts

/-- **Replacing a pair**: every occurrence of `a` followed by `b`, found from left
to right and without overlap, becomes `new`. -/
def replacePair (a b : Char) (new : Text) : Text → Text
  | [] => []
  | [c] => [c]
  | c :: d :: rest =>
    if c = a ∧ d = b then new ++ replacePair a b new rest
    else c :: replacePair a b new (d :: rest)

/-- Puts `pre` in front of the first text of a list. -/
def consHead (c : Char) : List Text → List Text
  | [] => [[c]]
  | t :: ts => (c :: t) :: ts

/-- The pieces of a text between the occurrences of `sep`. -/
def split (sep : Char) : Text → List Text
  | [] => [[]]
  | c :: rest => if c = sep then [] :: split sep rest else consHead c (split sep rest)

/-- The texts of a list with `sep` between each two of them. -/
def join (sep : Text) : List Text → Text
  | [] => []
  | [t] => t
  | t :: u :: ts => t ++ sep ++ join sep (u :: ts)

/-- Whether `needle` occurs in a text. -/
def contains (needle : Text) : Text → Bool
  | [] => needle.isEmpty
  | c :: rest => needle.isPrefixOf (c :: rest) || contains needle rest

/-- The text without a leading `pre`, if it starts with it. -/
def dropPrefix? (pre : Text) (t : Text) : Option Text :=
  if pre.isPrefixOf t then some (t.drop pre.length) else none

/-- A decimal numeral without sign or leading zeros. -/
def ofNat (n : Nat) : Text := Nat.toDigits 10 n

/-- A decimal numeral, with a minus sign in front of a negative number. -/
def ofInt (n : Int) : Text :=
  if n < 0 then '-' :: ofNat n.natAbs else ofNat n.natAbs

/-- The numeral `t` filled up to `width` characters with zeros on the left. -/
def zeroFill (width : Nat) (t : Text) : Text :=
  List.replicate (width - t.length) '0' ++ t

/-! ### Splitting and joining -/

theorem consHead_ne_nil (c : Char) (ts : List Text) : consHead c ts ≠ [] := by
  cases ts <;> simp [consHead]

theorem split_ne_nil (sep : Char) (t : Text) : split sep t ≠ [] := by
  cases t with
  | nil => simp [split]
  | cons c rest =>
    by_cases h : c = sep
    · simp [split, h]
    · simp [split, h, consHead_ne_nil]

/-- Joining the pieces of a split text with the separator gives the text back. -/
theorem join_split (sep : Char) (t : Text) : join [sep] (split sep t) = t := by
  induction t with
  | nil => simp [split, join]
  | cons c rest ih =>
    obtain ⟨u, us, hu⟩ := List.exists_cons_of_ne_nil (split_ne_nil sep rest)
    by_cases h : c = sep
    · rw [split, if_pos h, hu]
      rw [hu] at ih
      simp [join, ih, h]
    · rw [split, if_neg h, hu, consHead]
      rw [hu] at ih
      cases us with
      | nil => simpa [join] using ih
      | cons v vs => simpa [join] using ih

theorem split_of_not_mem {sep : Char} {t : Text} (h : sep ∉ t) : split sep t = [t] := by
  induction t with
  | nil => rfl
  | cons c rest ih =>
    rw [List.mem_cons, not_or] at h
    rw [split, if_neg (Ne.symm h.1), ih h.2, consHead]

theorem split_append_cons {sep : Char} {t : Text} (h : sep ∉ t) (u : Text) :
    split sep (t ++ sep :: u) = t :: split sep u := by
  induction t with
  | nil => rw [List.nil_append, split, if_pos rfl]
  | cons c rest ih =>
    rw [List.mem_cons, not_or] at h
    rw [List.cons_append, split, if_neg (Ne.symm h.1), ih h.2, consHead]

/-- Splitting joined texts at the separator gives the texts back, if none of them has it. -/
theorem split_join {sep : Char} {ts : List Text} (hne : ts ≠ []) (h : ∀ t ∈ ts, sep ∉ t) :
    split sep (join [sep] ts) = ts := by
  induction ts with
  | nil => exact absurd rfl hne
  | cons t ts ih =>
    have ht : sep ∉ t := h t (List.mem_cons_self)
    cases ts with
    | nil => exact split_of_not_mem ht
    | cons u ts =>
      rw [join, List.append_assoc, List.singleton_append, split_append_cons ht,
        ih (by simp) fun v hv => h v (List.mem_cons_of_mem _ hv)]

/-! ### Replacing -/

section Replacing

variable {a b c : Char} {new : Text}

@[simp]
theorem replacePair_pair (t : Text) :
    replacePair a b new (a :: b :: t) = new ++ replacePair a b new t := by
  rw [replacePair, if_pos ⟨rfl, rfl⟩]

/-- A character that does not begin the pair stays. -/
theorem replacePair_cons (h : c ≠ a) (t : Text) :
    replacePair a b new (c :: t) = c :: replacePair a b new t := by
  cases t with
  | nil => rfl
  | cons d rest => rw [replacePair, if_neg fun hc => h hc.1]

/-- So does one in front of a character that does not end the pair. -/
theorem replacePair_cons_cons {d : Char} (h : d ≠ b) (t : Text) :
    replacePair a b new (c :: d :: t) = c :: replacePair a b new (d :: t) := by
  rw [replacePair, if_neg fun hc => h hc.2]

end Replacing

end Text

end ApiTypes
