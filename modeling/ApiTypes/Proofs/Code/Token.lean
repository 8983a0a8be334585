import ApiTypes.Output.Check
import ApiTypes.Proofs.Text.Infix
import ApiTypes.TypeScript.Quote

/-!
# Complete comments and literals

The check of generated code steps over comments and string literals, and looks for the end of
each of them as it goes (`ApiTypes.Output.tokenEnd?`). Here is what it steps over, said without
the search:

| token | not inside of it | grammar |
|---|---|---|
| comment block | its end marker | `ApiTypes.Output.IsCommentBlock` |
| literal | its quote, unless behind a backslash | `ApiTypes.Output.IsLiteral` |

A token is found at the front of a text if and only if one stands there
(`ApiTypes.Output.tokenEnd?_eq_some_iff`), whatever comes behind it. In particular an opening
mark whose comment or literal is never closed is not the front of a token.
-/

namespace ApiTypes.Output

open TypeScript

variable {q : Char} {t rest : Text}

/-! ### Literals -/

/-- **The inside of a literal** in quotes `q`. -/
inductive LiteralBody (q : Char) : Text → Prop
  /-- Nothing. -/
  | nil : LiteralBody q []
  /-- A backslash, which takes the character behind it along. -/
  | escaped (c : Char) {t : Text} : LiteralBody q t → LiteralBody q ('\\' :: c :: t)
  /-- Any other character but the quote. -/
  | char {c : Char} {t : Text} : c ≠ '\\' → c ≠ q → LiteralBody q t → LiteralBody q (c :: t)

theorem literalBody_escape (q : Char) (t : Text) : LiteralBody q (escape q t) := by
  induction t with
  | nil => exact .nil
  | cons c t ih =>
    rw [escape_cons, escapeChar]
    by_cases hc : c = '\\' ∨ c = q
    · rw [if_pos hc]
      exact .escaped c ih
    · rw [if_neg hc]
      rw [not_or] at hc
      exact .char hc.1 hc.2 ih

theorem literalEnd?_cons (q : Char) {c : Char} (hc : c ≠ '\\') (rest : Text) :
    literalEnd? q (c :: rest) = if c = q then some rest else literalEnd? q rest := by
  cases rest <;> simp [literalEnd?, hc]

/-- The end of a literal is the first quote that is not escaped. -/
theorem literalEnd?_append (hq : q ≠ '\\') (h : LiteralBody q t) (rest : Text) :
    literalEnd? q (t ++ q :: rest) = some rest := by
  induction h with
  | nil => rw [List.nil_append, literalEnd?_cons q hq, if_pos rfl]
  | escaped c _ ih => exact ih
  | char hc hne _ ih => rw [List.cons_append, literalEnd?_cons q hc, if_neg hne, ih]

theorem exists_of_literalEnd? (h : literalEnd? q t = some rest) :
    ∃ body, LiteralBody q body ∧ t = body ++ q :: rest := by
  fun_induction literalEnd? q t with
  | case1 => exact absurd h (by simp)
  | case2 => exact absurd h (by simp)
  | case3 c t ih =>
    obtain ⟨body, hbody, rfl⟩ := ih h
    exact ⟨'\\' :: c :: body, .escaped c hbody, rfl⟩
  | case4 t _ _ =>
    obtain rfl := Option.some.inj h
    exact ⟨[], .nil, rfl⟩
  | case5 c t _ hmore hc ih =>
    obtain ⟨body, hbody, rfl⟩ := ih h
    -- a backslash would have been the last character or have taken one along
    have hbackslash : c ≠ '\\' := by
      rintro rfl
      cases hb : body ++ q :: rest with
      | nil => exact absurd hb (by simp)
      | cons d u => exact hmore d u rfl hb
    exact ⟨c :: body, .char hbackslash hc hbody, rfl⟩

/-- **A literal** in quotes `q`, from quote to quote. -/
inductive IsLiteral (q : Char) : Text → Prop
  /-- Its inside between the quotes. -/
  | mk {body : Text} : LiteralBody q body → IsLiteral q (q :: (body ++ [q]))

theorem isLiteral_quote (q : Char) (t : Text) : IsLiteral q (quote q t) :=
  .mk (literalBody_escape q t)

/-! ### Comments -/

theorem commentEnd?_cons {c : Char} {t : Text} (h : ¬(c = '*' ∧ t.head? = some '/')) :
    commentEnd? (c :: t) = commentEnd? t := by
  cases t with
  | nil => simp [commentEnd?]
  | cons d t =>
    rw [commentEnd?]
    rintro rest rfl hd
    exact h ⟨rfl, by rw [hd]; rfl⟩

/-- The end of a comment is the first end marker. -/
theorem commentEnd?_append (h : ¬Text.HasPair '*' '/' t) (rest : Text) :
    commentEnd? (t ++ '*' :: '/' :: rest) = some rest := by
  induction t with
  | nil => rfl
  | cons c t ih =>
    rw [Text.hasPair_cons, not_or] at h
    rw [List.cons_append, commentEnd?_cons, ih h.2]
    rintro ⟨rfl, ht⟩
    cases t with
    | nil => simp at ht
    | cons d t => exact h.1 ⟨rfl, ht⟩

theorem exists_of_commentEnd? (h : commentEnd? t = some rest) :
    ∃ body, ¬Text.HasPair '*' '/' body ∧ t = body ++ '*' :: '/' :: rest := by
  fun_induction commentEnd? t with
  | case1 => exact absurd h (by simp)
  | case2 t =>
    obtain rfl := Option.some.inj h
    exact ⟨[], Text.not_hasPair_nil, rfl⟩
  | case3 c t hmarker ih =>
    obtain ⟨body, hbody, rfl⟩ := ih h
    refine ⟨c :: body, ?_, rfl⟩
    rw [Text.hasPair_cons, not_or]
    refine ⟨?_, hbody⟩
    rintro ⟨rfl, hhead⟩
    cases body with
    | nil => exact absurd hhead (by simp)
    | cons d u =>
      obtain rfl := Option.some.inj hhead
      exact hmarker _ rfl rfl

/-- **A comment block**, from marker to marker. -/
inductive IsCommentBlock : Text → Prop
  /-- What stands between the markers has no end marker. -/
  | mk {body : Text} : ¬Text.HasPair '*' '/' body →
      IsCommentBlock ('/' :: '*' :: (body ++ ['*', '/']))

/-! ### Tokens -/

/-- **A token**: a complete comment or a complete literal. -/
inductive IsToken : Text → Prop
  /-- A comment block. -/
  | comment {t : Text} : IsCommentBlock t → IsToken t
  /-- A literal in quotes of one of the two kinds. -/
  | literal {q : Char} {t : Text} : q = '"' ∨ q = '\'' → IsLiteral q t → IsToken t

/-- **A token is found** where one stands, and it ends where it does. -/
theorem tokenEnd?_eq_some_iff :
    tokenEnd? t = some rest ↔ ∃ token, IsToken token ∧ t = token ++ rest := by
  constructor
  · intro h
    unfold tokenEnd? at h
    split at h
    · obtain ⟨body, hbody, rfl⟩ := exists_of_commentEnd? h
      exact ⟨_, .comment (.mk hbody), by simp⟩
    · obtain ⟨body, hbody, rfl⟩ := exists_of_literalEnd? h
      exact ⟨_, .literal (.inl rfl) (.mk hbody), by simp⟩
    · obtain ⟨body, hbody, rfl⟩ := exists_of_literalEnd? h
      exact ⟨_, .literal (.inr rfl) (.mk hbody), by simp⟩
    · exact absurd h (by simp)
  · rintro ⟨token, htoken, rfl⟩
    cases htoken with
    | comment h =>
      cases h with
      | mk hbody => simpa [tokenEnd?] using commentEnd?_append hbody rest
    | @literal q _ hq h =>
      cases h with
      | @mk body hbody =>
        have hend := literalEnd?_append (by rcases hq with rfl | rfl <;> decide) hbody rest
        rw [List.cons_append, List.append_assoc, List.singleton_append]
        rcases hq with rfl | rfl <;> exact hend

end ApiTypes.Output
