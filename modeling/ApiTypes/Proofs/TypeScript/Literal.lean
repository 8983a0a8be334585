import ApiTypes.Proofs.Value.OneLine
import ApiTypes.TypeScript.Quote

/-!
# Reading string literals

A string literal of TypeScript ends at the first quote of its kind that has no backslash in front.
Up to there it has to be on one line, and a backslash in it stands in front of a backslash or of a
quote, which it stands for (`ApiTypes.TypeScript.readLiteral?`; it has other escapes, which are
never written here).

What is quoted is read back as it was if it is of one line: then the literal is complete, and it
has the right value. Otherwise it is no literal at all, since the end of a line stands in it as it
is. So `ApiTypes.TypeScript.readLiteral_quoted` says of each name of a property and of each value of
a literal type whether it is written as it should be. Only strings can go wrong
(`ApiTypes.TypeScript.readLiteral_lineFeed`).
-/

namespace ApiTypes.TypeScript

open Text (OneLine)

/-- The inside of a literal in quotes `q`, whose opening quote stands in front: its value, and what
follows its closing quote. -/
def readInside? (q : Char) : Text → Option (Text × Text)
  | [] => none
  | '\\' :: c :: rest =>
    if c = '\\' ∨ c = '"' ∨ c = '\'' then
      (readInside? q rest).map fun r => (c :: r.1, r.2)
    else none
  | c :: rest =>
    if c = q then some ([], rest)
    else if c = '\n' ∨ c = '\r' then none
    else (readInside? q rest).map fun r => (c :: r.1, r.2)

/-- **The literal in quotes `q` at the front of a text**, if there is one: its value, and what
follows it. -/
def readLiteral? (q : Char) : Text → Option (Text × Text)
  | [] => none
  | c :: rest => if c = q then readInside? q rest else none

variable {q c : Char}

theorem readInside_backslash (h : c = '\\' ∨ c = '"' ∨ c = '\'') (t : Text) :
    readInside? q ('\\' :: c :: t) = (readInside? q t).map fun r => (c :: r.1, r.2) := by
  rw [readInside?, if_pos h]

theorem readInside_cons (hc : c ≠ '\\') (t : Text) :
    readInside? q (c :: t) =
      if c = q then some ([], t)
      else if c = '\n' ∨ c = '\r' then none
      else (readInside? q t).map fun r => (c :: r.1, r.2) := by
  rw [readInside?]
  exact fun _ _ h _ => hc h

/-- **The inside of a literal is read back** if it is of one line, and otherwise there is no
literal. -/
theorem readInside_escape (hq : q = '"' ∨ q = '\'') (t rest : Text) :
    readInside? q (escape q t ++ q :: rest) = if OneLine t then some (t, rest) else none := by
  have hbackslash : q ≠ '\\' := by rcases hq with rfl | rfl <;> decide
  induction t with
  | nil => rw [escape_nil, List.nil_append, readInside_cons hbackslash, if_pos rfl, if_pos (by simp)]
  | cons c t ih =>
    rw [escape_cons, escapeChar, List.append_assoc]
    by_cases hescaped : c = '\\' ∨ c = q
    · -- a character behind a backslash is no end of a line
      have hc : c = '\\' ∨ c = '"' ∨ c = '\'' := by
        rcases hescaped with rfl | rfl
        · exact .inl rfl
        · exact .inr hq
      have hline : OneLine (c :: t) ↔ OneLine t := by
        rw [Text.oneLine_cons]
        rcases hc with rfl | rfl | rfl <;> simp
      rw [if_pos hescaped, List.cons_append, List.singleton_append, readInside_backslash hc, ih]
      simp only [hline]
      split <;> rfl
    · rw [not_or] at hescaped
      rw [if_neg (not_or.2 hescaped), List.singleton_append, readInside_cons hescaped.1,
        if_neg hescaped.2, ih]
      by_cases hend : c = '\n' ∨ c = '\r'
      · have hline : ¬OneLine (c :: t) := by
          rw [Text.oneLine_cons]
          rcases hend with rfl | rfl <;> simp
        rw [if_pos hend, if_neg hline]
      · have hline : OneLine (c :: t) ↔ OneLine t := by
          rw [not_or] at hend
          rw [Text.oneLine_cons]
          exact and_iff_right hend
        rw [if_neg hend]
        simp only [hline]
        split <;> rfl

/-- **What is quoted is read back**, whatever follows, if it is of one line. -/
theorem readLiteral_quote (hq : q = '"' ∨ q = '\'') (t rest : Text) :
    readLiteral? q (quote q t ++ rest) = if OneLine t then some (t, rest) else none := by
  rw [quote, List.cons_append, List.append_assoc, List.singleton_append, readLiteral?, if_pos rfl,
    readInside_escape hq]

/-- **Names and literal types are written as they should be**, complete and with the right value,
if and only if they are of one line. The text of a value always is, unless the value is a string
with the end of a line in it. -/
theorem readLiteral_quoted (name : Text) (v : Value) (rest : Text) :
    (readLiteral? '"' (quoteKey name ++ rest) = if OneLine name then some (name, rest) else none) ∧
      (readLiteral? '\'' (quoteLiteral v.literalText ++ rest) =
        if OneLine v.literalText then some (v.literalText, rest) else none) ∧
      (OneLine v.literalText ↔ ∀ s, v = .str s → OneLine s.toList) :=
  ⟨readLiteral_quote (.inl rfl) name rest, readLiteral_quote (.inr rfl) v.literalText rest,
    Value.oneLine_literalText v⟩

/-- With the end of a line in it, neither is a literal. -/
theorem readLiteral_lineFeed :
    readLiteral? '"' (quoteKey ['a', '\n', 'b']) = none ∧
      readLiteral? '\'' (quoteLiteral (Value.str "a\rb").literalText) = none := by
  decide +kernel

end ApiTypes.TypeScript
