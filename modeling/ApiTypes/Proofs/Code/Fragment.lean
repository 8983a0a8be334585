import ApiTypes.Proofs.Code.Lexeme
import ApiTypes.Value.Display

/-!
# Cutting code at a border

What the check looks at is the code without its tokens, that is, without each complete comment
and literal that begins where no other one has begun before it (`ApiTypes.Output.Stripped`,
`ApiTypes.Output.stripped_iff`). It cannot be found piece by piece: cut in two at an arbitrary
place, code may have a token across the border, or in the second half an opening mark that
belonged to a token of the first half.

Behind a fragment (`ApiTypes.Output.Fragment`) it can. A fragment is made of complete tokens and
of characters with which none begins, and then it does not matter what follows, be it the front
of a token that never ends (`ApiTypes.Output.strip_fragment`). Names, literal types and
descriptions are written as single tokens, so that all generated code can be cut at them.
-/

namespace ApiTypes.Output

open TypeScript

variable {t u : Text}

/-! ### Code without its tokens -/

/-- **Code without its tokens**: from left to right, each token that the code begins with is
left out, and where it begins with none, its first character stays. -/
inductive Stripped : Text → Text → Prop
  /-- Nothing is left. -/
  | nil : Stripped [] []
  /-- A token. -/
  | token {token t u : Text} : IsToken token → Stripped t u → Stripped (token ++ t) u
  /-- A character with which no token begins. -/
  | char {c : Char} {t u : Text} : (∀ token, IsToken token → ¬token <+: c :: t) → Stripped t u →
      Stripped (c :: t) (c :: u)

theorem tokenEnd?_eq_none_iff :
    tokenEnd? t = none ↔ ∀ token, IsToken token → ¬token <+: t := by
  rw [Option.eq_none_iff_forall_ne_some]
  constructor
  · rintro h token htoken ⟨rest, rfl⟩
    exact h rest (tokenEnd?_eq_some_iff.2 ⟨token, htoken, rfl⟩)
  · intro h rest hrest
    obtain ⟨token, htoken, rfl⟩ := tokenEnd?_eq_some_iff.1 hrest
    exact h token htoken (List.prefix_append token rest)

/-- **What the check looks at** is the code without its tokens. -/
theorem stripped_iff : Stripped t u ↔ strip t = u := by
  constructor
  · intro h
    rw [strip_eq_filterMap]
    induction h with
    | nil => rw [lexemes_nil, List.filterMap_nil]
    | token htoken _ ih =>
      rw [lexemes_isToken_append htoken, List.filterMap_cons_none (Lexeme.char?_token _), ih]
    | char hnone _ ih =>
      rw [lexemes_cons_of_none (tokenEnd?_eq_none_iff.2 hnone),
        List.filterMap_cons_some (Lexeme.char?_plain _), ih]
  · rintro rfl
    fun_induction strip t with
    | case1 => exact .nil
    | case2 c t rest h ih =>
      obtain ⟨token, htoken, heq⟩ := tokenEnd?_eq_some_iff.1 h
      rw [heq]
      exact .token htoken ih
    | case3 c t h ih => exact .char (tokenEnd?_eq_none_iff.1 h) ih

/-! ### Fragments -/

/-- **A fragment** of code: complete tokens, and characters with which none begins. -/
inductive Fragment : Text → Prop
  /-- Nothing. -/
  | nil : Fragment []
  /-- A character with which no token begins. -/
  | plain {c : Char} {t : Text} : IsPlain c → Fragment t → Fragment (c :: t)
  /-- A token. -/
  | token {token t : Text} : IsToken token → Fragment t → Fragment (token ++ t)

theorem Fragment.closed (h : Fragment t) : Closed t := by
  induction h with
  | nil => exact closed_nil
  | plain hc _ ih => exact Closed.append (closed_of_plain (t := [_]) (by simpa using hc)) ih
  | token htoken _ ih => exact (closed_of_isToken htoken).append ih

theorem strip_append_of_closed (h : Closed t) (rest : Text) :
    strip (t ++ rest) = strip t ++ strip rest := by
  simp only [strip_eq_filterMap, h rest, List.filterMap_append]

theorem strip_of_isToken (h : IsToken t) : strip t = [] := by
  rw [strip_eq_filterMap, lexemes_of_isToken h]
  rfl

theorem strip_docComment (description : Text) : strip (docComment description) = ['\n'] := by
  have hlex := lexemes_docComment_append description []
  rw [List.append_nil, lexemes_nil] at hlex
  rw [strip_eq_filterMap, hlex]
  rfl

/-- **Code is stripped piece by piece** behind a fragment, whatever follows it; and stripping takes
the tokens out, from left to right. Each name and each literal type is written as a single literal,
and each description as a single comment and a line feed. -/
theorem strip_fragment :
    (∀ t u, Stripped t u ↔ strip t = u) ∧
      (∀ u v, Fragment u → strip (u ++ v) = strip u ++ strip v) ∧
      (∀ name, IsLiteral '"' (quoteKey name) ∧ strip (quoteKey name) = []) ∧
      (∀ v : Value, IsLiteral '\'' (quoteLiteral v.literalText) ∧
        strip (quoteLiteral v.literalText) = []) ∧
      ∀ description, (∃ block, IsCommentBlock block ∧ docComment description = block ++ ['\n']) ∧
        strip (docComment description) = ['\n'] := by
  refine ⟨fun t u => stripped_iff, fun u v h => strip_append_of_closed h.closed v, fun name => ?_,
    fun v => ?_, fun description => ⟨⟨docBlock description, ?_, ?_⟩, ?_⟩⟩
  · exact ⟨isLiteral_quote '"' name, strip_of_isToken (isToken_quote (.inl rfl) name)⟩
  · exact ⟨isLiteral_quote '\'' v.literalText,
      strip_of_isToken (isToken_quote (.inr rfl) v.literalText)⟩
  · exact isCommentBlock_docBlock description
  · exact docComment_eq description
  · exact strip_docComment description

/-- Behind a comment with a quote in it, and a literal with an escaped one, a comment that is never
closed does no harm. -/
theorem strip_fragment_unclosed :
    Fragment "\x7b/*\"*/'\\'\x7d'".toList ∧
      strip ("\x7b/*\"*/'\\'\x7d'".toList ++ "/* '".toList) = "\x7b/* '".toList := by
  have hbody : ¬Text.HasPair '*' '/' ['"'] := by decide
  have hcomment : IsToken "/*\"*/".toList := .comment (.mk hbody)
  have hliteral : IsToken "'\\'\x7d'".toList :=
    .literal (.inr rfl) (.mk (.escaped '\'' (.char (by decide) (by decide) .nil)))
  have hfragment : Fragment "\x7b/*\"*/'\\'\x7d'".toList :=
    .plain (by decide) (.token hcomment (.token hliteral .nil))
  refine ⟨hfragment, ?_⟩
  rw [strip_fragment.2.1 _ _ hfragment]
  decide +kernel

end ApiTypes.Output
