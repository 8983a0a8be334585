import ApiTypes.Text.Basic

/-!
# Similar texts

How similar two texts are is measured by what they have in common: the longest block
that occurs in both, the earliest one if there are several, then the longest blocks in
what is left of it on both sides and in what is right of it, and so on. The measure
(`ApiTypes.Text.Likeness`) is twice the number of the characters in common blocks over
the number of all characters. `ApiTypes.Text.closest` picks the texts of a list that are
most similar to a given one.
-/

namespace ApiTypes.Text

/-- The number of characters that two texts start with in common. -/
def commonFront : Text → Text → Nat
  | a :: s, b :: t => if a = b then commonFront s t + 1 else 0
  | _, _ => 0

/-- A block that occurs in two texts. -/
structure Block where
  /-- Where it starts in the first text. -/
  first : Nat
  /-- Where it starts in the second text. -/
  second : Nat
  /-- The number of its characters. -/
  length : Nat
deriving DecidableEq, Repr

/-- **The longest common block** of two texts, of several the one that starts first in the
first text, and then in the second. -/
def longestBlock (s t : Text) : Block :=
  (List.range s.length).foldl (fun best i =>
    (List.range t.length).foldl (fun best j =>
      let n := commonFront (s.drop i) (t.drop j)
      if best.length < n then ⟨i, j, n⟩ else best) best) ⟨0, 0, 0⟩

/-- The number of characters in common blocks, the blocks being nested at most `fuel`
deep. -/
def matchingWithin : Nat → Text → Text → Nat
  | 0, _, _ => 0
  | fuel + 1, s, t =>
    let b := longestBlock s t
    if b.length = 0 then 0
    else
      matchingWithin fuel (s.take b.first) (t.take b.second) + b.length +
        matchingWithin fuel (s.drop (b.first + b.length)) (t.drop (b.second + b.length))

/-- **The number of characters in common blocks.** -/
def matching (s t : Text) : Nat := matchingWithin s.length s t

/-- A text, and how similar it is to another one: `common` over `all`. -/
structure Likeness where
  /-- The text. -/
  text : Text
  /-- Twice the number of the characters in common blocks. -/
  common : Nat
  /-- The number of the characters of both texts. -/
  all : Nat

/-- How similar `candidate` is to `word`. -/
def likeness (word candidate : Text) : Likeness where
  text := candidate
  common := 2 * matching candidate word
  all := candidate.length + word.length

/-- Whether a text comes before another one or is the same: by their first letters that are not
the same, which are ordered by their code points. -/
def notAfter : Text → Text → Bool
  | [], _ => true
  | _ :: _, [] => false
  | c :: s, d :: t => if c = d then notAfter s t else c.toNat < d.toNat

/-- Whether `l` comes before `m` when the most similar texts come first. -/
def Likeness.before (l m : Likeness) : Bool :=
  if l.common * m.all = m.common * l.all then notAfter m.text l.text
  else m.common * l.all < l.common * m.all

/-- Whether three fifths of the characters are in common blocks. -/
def Likeness.isClose (l : Likeness) : Bool := 3 * l.all ≤ 5 * l.common

/-- **The closest texts** of a list: at most three, in alphabetical order. -/
def closest (word : Text) (candidates : List Text) : List Text :=
  let close := (candidates.map (likeness word)).filter Likeness.isClose
  let best := (close.mergeSort Likeness.before).take 3
  (best.map (·.text)).mergeSort notAfter

end ApiTypes.Text
