import ApiTypes.Text.Basic

/-!
# Code units and surrogates

An escape in a quoted string names a code unit. Two code units in a row of which the
first is a high and the second a low surrogate stand for one character beyond the basic
plane where the format pairs them (`ApiTypes.Text.ofCodeUnits`).

A surrogate by itself is no character, and still a text can come to hold one. Its place
is taken by the private-use character that stands at the same place of the last plane
(`ApiTypes.Text.ofCodePoint`), and `ApiTypes.Text.codePoint` says which code point a
character of a text stands for. A text with a surrogate has no encoding as bytes:
`ApiTypes.Text.surrogates?` finds the first run of them.

## The characters left out

The private-use characters from U+10D800 to U+10DFFF cannot be told from the surrogates whose
place they take. A text with one of them counts as a text with a surrogate, so that it has no
encoding here although it has one. Wherever texts are told by their encodings, those with one
of these characters are left out.
-/

namespace ApiTypes.Text

/-- Whether a code point is a surrogate. -/
def isSurrogate (n : Nat) : Bool := 0xd800 ≤ n && n < 0xe000

/-- The start of the last plane. -/
def lastPlane : Nat := 0x100000

/-- **The character for a code point**: that character, or the one in the last plane that
takes the place of a surrogate; the replacement character beyond the last plane. -/
def ofCodePoint (n : Nat) : Char :=
  if h : n.isValidChar then Char.ofNatAux n h
  else if isSurrogate n then Char.ofNat (lastPlane + n)
  else '\ufffd'

/-- **The code point that a character of a text stands for.** -/
def codePoint (c : Char) : Nat :=
  if isSurrogate (c.toNat - lastPlane) then c.toNat - lastPlane else c.toNat

/-- The text of a sequence of code units, in which surrogates come in pairs. -/
def ofCodeUnits : List Nat → Text
  | [] => []
  | [u] => [ofCodePoint u]
  | u :: v :: rest =>
    if 0xd800 ≤ u ∧ u < 0xdc00 ∧ 0xdc00 ≤ v ∧ v < 0xe000 then
      ofCodePoint (0x10000 + (u - 0xd800) * 0x400 + (v - 0xdc00)) :: ofCodeUnits rest
    else ofCodePoint u :: ofCodeUnits (v :: rest)

/-- A run of surrogates in a text. -/
structure SurrogateRun where
  /-- The number of characters in front of the run. -/
  position : Nat
  /-- The number of surrogates. -/
  length : Nat
  /-- The first surrogate. -/
  first : Nat
deriving DecidableEq, Repr

/-- The first run of surrogates in a text behind `position` characters. -/
def surrogatesFrom? (position : Nat) : Text → Option SurrogateRun
  | [] => none
  | c :: rest =>
    if isSurrogate (codePoint c) then
      some ⟨position, (rest.takeWhile fun d => isSurrogate (codePoint d)).length + 1, codePoint c⟩
    else surrogatesFrom? (position + 1) rest

/-- **The first run of surrogates in a text.** -/
def surrogates? (t : Text) : Option SurrogateRun := surrogatesFrom? 0 t

/-- Below the private-use characters of the last plane, a character stands for itself. -/
theorem codePoint_of_lt {c : Char} (h : c.toNat < lastPlane) : codePoint c = c.toNat := by
  have hs : isSurrogate (c.toNat - lastPlane) = false := by
    rw [Nat.sub_eq_zero_of_le (Nat.le_of_lt h)]
    rfl
  rw [codePoint, hs]
  rfl

end ApiTypes.Text
