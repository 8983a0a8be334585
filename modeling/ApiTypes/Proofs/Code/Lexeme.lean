import ApiTypes.Proofs.Code.Token
import ApiTypes.TypeScript.DocComment

/-!
# The lexemes of generated code

The check of generated code steps over comments and string literals and looks at every
other character by itself. This file keeps what it steps over: `ApiTypes.Output.lexemes`
cuts code into comments and literals on one side and single characters on the other, and
what the check looks at is the characters (`ApiTypes.Output.strip_eq_filterMap`).

Cutting is not local: an opening mark may find its end far behind. A text is *closed*
(`ApiTypes.Output.Closed`) when it is cut in the same way whatever follows it, so that
code put together from closed texts is cut piece by piece. There are three kinds of
closed texts to start from:

| text | cut into | theorem |
|---|---|---|
| a character that opens nothing | itself | `ApiTypes.Output.lexemes_cons_of_plain` |
| a complete comment or literal | one token | `ApiTypes.Output.lexemes_isToken_append` |
| a description | one token and a line feed | `ApiTypes.Output.lexemes_docComment_append` |
-/

namespace ApiTypes.Output

open TypeScript

/-- **A piece of code.** -/
inductive Lexeme where
  /-- A comment or a string literal, as it is written. -/
  | token (text : Text)
  /-- Any other character. -/
  | plain (c : Char)
deriving DecidableEq

/-- The character that a piece of code is, if it is one. -/
def Lexeme.char? : Lexeme → Option Char
  | token _ => none
  | plain c => some c

@[simp]
theorem Lexeme.char?_token (t : Text) : (token t).char? = none := rfl

@[simp]
theorem Lexeme.char?_plain (c : Char) : (plain c).char? = some c := rfl

/-- **The pieces of some code**, from left to right. -/
def lexemes : Text → List Lexeme
  | [] => []
  | c :: rest =>
    match _h : tokenEnd? (c :: rest) with
    | some rest' => .token ((c :: rest).take (rest.length + 1 - rest'.length)) :: lexemes rest'
    | none => .plain c :: lexemes rest
termination_by t => t.length
decreasing_by
  · exact length_tokenEnd? _h
  · simp

@[simp]
theorem lexemes_nil : lexemes [] = [] := by
  rw [lexemes]

theorem lexemes_cons_of_none {c : Char} {rest : Text} (h : tokenEnd? (c :: rest) = none) :
    lexemes (c :: rest) = .plain c :: lexemes rest := by
  rw [lexemes]
  split
  · next rest' h' => rw [h] at h'; simp at h'
  · rfl

theorem lexemes_of_some {t rest : Text} (h : tokenEnd? t = some rest) :
    lexemes t = .token (t.take (t.length - rest.length)) :: lexemes rest := by
  cases t with
  | nil => simp [tokenEnd?] at h
  | cons c t =>
    rw [lexemes]
    split
    · next rest' h' =>
      obtain rfl : rest = rest' := Option.some.inj (h.symm.trans h')
      rw [List.length_cons]
    · next h' => rw [h] at h'; simp at h'

/-- A token is what stands between its front and its end. -/
theorem lexemes_token_append {t rest : Text} (h : tokenEnd? (t ++ rest) = some rest) :
    lexemes (t ++ rest) = .token t :: lexemes rest := by
  rw [lexemes_of_some h]
  simp

/-- **What the check looks at** is the characters outside of comments and literals. -/
theorem strip_eq_filterMap (t : Text) : strip t = (lexemes t).filterMap Lexeme.char? := by
  fun_induction lexemes t with
  | case1 => rw [strip, List.filterMap_nil]
  | case2 c rest rest' h ih =>
    rw [strip, List.filterMap_cons_none (Lexeme.char?_token _), ← ih]
    split
    · next h' => rw [h] at h'; rw [Option.some.inj h']
    · next h' => rw [h] at h'; simp at h'
  | case3 c rest h ih =>
    rw [strip, List.filterMap_cons_some (Lexeme.char?_plain c), ← ih]
    split
    · next h' => rw [h] at h'; simp at h'
    · rfl

/-! ### Closed texts -/

/-- **A closed text**: it is cut in the same way whatever follows. -/
def Closed (t : Text) : Prop := ∀ rest, lexemes (t ++ rest) = lexemes t ++ lexemes rest

theorem closed_nil : Closed [] := fun rest => by simp

theorem Closed.append {t u : Text} (ht : Closed t) (hu : Closed u) : Closed (t ++ u) := by
  intro rest
  rw [List.append_assoc, ht, hu, ht, List.append_assoc]

/-- A text that is cut into the same pieces whatever follows it. -/
theorem Closed.of_eq {t : Text} (ls : List Lexeme)
    (h : ∀ rest, lexemes (t ++ rest) = ls ++ lexemes rest) : Closed t ∧ lexemes t = ls := by
  have ht : lexemes t = ls := by simpa using h []
  exact ⟨fun rest => by rw [h, ht], ht⟩

/-! ### Characters that open nothing -/

/-- A character at which neither a comment nor a literal begins. -/
def IsPlain (c : Char) : Prop := c ≠ '/' ∧ c ≠ '"' ∧ c ≠ '\''

instance : DecidablePred IsPlain := fun _ => inferInstanceAs (Decidable (_ ∧ _ ∧ _))

theorem tokenEnd?_of_isPlain {c : Char} (h : IsPlain c) (rest : Text) :
    tokenEnd? (c :: rest) = none := by
  obtain ⟨h₁, h₂, h₃⟩ := h
  unfold tokenEnd?
  split <;> simp_all

theorem lexemes_cons_of_plain {c : Char} (h : IsPlain c) (rest : Text) :
    lexemes (c :: rest) = .plain c :: lexemes rest :=
  lexemes_cons_of_none (tokenEnd?_of_isPlain h rest)

theorem lexemes_plain_append {t : Text} (h : ∀ c ∈ t, IsPlain c) (rest : Text) :
    lexemes (t ++ rest) = t.map .plain ++ lexemes rest := by
  induction t with
  | nil => rfl
  | cons c t ih =>
    rw [List.cons_append, lexemes_cons_of_plain (h c (by simp)), ih fun d hd => h d (by simp [hd])]
    rfl

theorem closed_of_plain {t : Text} (h : ∀ c ∈ t, IsPlain c) : Closed t :=
  (Closed.of_eq _ (lexemes_plain_append h)).1

theorem lexemes_of_plain {t : Text} (h : ∀ c ∈ t, IsPlain c) : lexemes t = t.map .plain :=
  (Closed.of_eq _ (lexemes_plain_append h)).2

/-! ### Comments and literals -/

/-- A token is a piece by itself, whatever follows it. -/
theorem lexemes_isToken_append {t : Text} (h : IsToken t) (rest : Text) :
    lexemes (t ++ rest) = .token t :: lexemes rest :=
  lexemes_token_append (tokenEnd?_eq_some_iff.2 ⟨t, h, rfl⟩)

theorem closed_of_isToken {t : Text} (h : IsToken t) : Closed t :=
  (Closed.of_eq [.token t] (lexemes_isToken_append h)).1

theorem lexemes_of_isToken {t : Text} (h : IsToken t) : lexemes t = [.token t] :=
  (Closed.of_eq _ (lexemes_isToken_append h)).2

theorem isToken_quote {q : Char} (hq : q = '"' ∨ q = '\'') (t : Text) : IsToken (quote q t) :=
  .literal hq (isLiteral_quote q t)

theorem lexemes_quote_append {q : Char} (hq : q = '"' ∨ q = '\'') (t rest : Text) :
    lexemes (quote q t ++ rest) = .token (quote q t) :: lexemes rest :=
  lexemes_isToken_append (isToken_quote hq t) rest

theorem closed_quote {q : Char} (hq : q = '"' ∨ q = '\'') (t : Text) : Closed (quote q t) :=
  closed_of_isToken (isToken_quote hq t)

theorem lexemes_quote {q : Char} (hq : q = '"' ∨ q = '\'') (t : Text) :
    lexemes (quote q t) = [.token (quote q t)] :=
  lexemes_of_isToken (isToken_quote hq t)

theorem isToken_comment {t : Text} (h : ¬Text.HasPair '*' '/' t) :
    IsToken ('/' :: '*' :: (t ++ ['*', '/'])) :=
  .comment (.mk h)

theorem closed_comment {t : Text} (h : ¬Text.HasPair '*' '/' t) :
    Closed ('/' :: '*' :: (t ++ ['*', '/'])) :=
  closed_of_isToken (isToken_comment h)

theorem lexemes_comment {t : Text} (h : ¬Text.HasPair '*' '/' t) :
    lexemes ('/' :: '*' :: (t ++ ['*', '/'])) = [.token ('/' :: '*' :: (t ++ ['*', '/']))] :=
  lexemes_of_isToken (isToken_comment h)

/-! ### The comment block of a description -/

/-- What stands between the marks of the comment block of a description. -/
def docBody (description : Text) : Text :=
  '*' :: (docMark ++ Text.join docMark (docLines description) ++ ['\n', ' ', ' '])

/-- The comment block of a description, from mark to mark. -/
def docBlock (description : Text) : Text :=
  '/' :: '*' :: (docBody description ++ ['*', '/'])

theorem docComment_eq (description : Text) :
    docComment description = docBlock description ++ ['\n'] := by
  simp [docComment, docBlock, docBody]

/-- The end markers of a description are broken, and no new one arises at the ends of its
lines. -/
theorem not_hasPair_docLines {description line : Text} (h : line ∈ docLines description) :
    ¬Text.HasPair '*' '/' line := by
  obtain ⟨piece, hpiece, rfl⟩ := List.mem_map.1 h
  intro hp
  have hdoc : Text.HasPair '*' '/' (docText description) :=
    (hp.mono (Text.trimEnd_prefix piece).isInfix).mono (Text.infix_of_mem_split hpiece)
  exact Text.not_hasPair_replacePair (by decide) (by decide) (by decide) (by decide) _ hdoc

theorem not_hasPair_docBody (description : Text) :
    ¬Text.HasPair '*' '/' (docBody description) := by
  have hjoin : ¬Text.HasPair '*' '/' (Text.join docMark (docLines description)) :=
    Text.not_hasPair_join (by decide) (by decide) (by decide) (by decide)
      fun line hline => not_hasPair_docLines hline
  -- in none of the pieces between the lines, in no line, and across no border
  rw [docBody, Text.hasPair_cons, List.append_assoc, Text.hasPair_append, Text.hasPair_append]
  rintro (⟨-, h⟩ | h | ⟨h, -⟩ | h | ⟨-, h⟩ | h)
  · exact absurd h (by simp [docMark])
  · exact absurd h (by decide)
  · exact absurd h (by decide)
  · exact hjoin h
  · exact absurd h (by decide)
  · exact absurd h (by decide)

theorem isCommentBlock_docBlock (description : Text) : IsCommentBlock (docBlock description) :=
  .mk (not_hasPair_docBody description)

theorem lexemes_docComment_append (description rest : Text) :
    lexemes (docComment description ++ rest) =
      .token (docBlock description) :: .plain '\n' :: lexemes rest := by
  have htoken : IsToken (docBlock description) := .comment (isCommentBlock_docBlock description)
  rw [docComment_eq, List.append_assoc, lexemes_isToken_append htoken, List.singleton_append,
    lexemes_cons_of_plain (by decide)]

end ApiTypes.Output
