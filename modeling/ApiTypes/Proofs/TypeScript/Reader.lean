import ApiTypes.Proofs.Code.Lexeme
import ApiTypes.TypeScript.Expr

/-!
# Reading types

A reader for the texts of type expressions (`ApiTypes.TypeScript.TypeExpr.read`). It
works on the pieces that the check of generated code cuts code into, so comments and
literals are one piece each whatever they contain, and it descends along the punctuation:
an opening parenthesis is followed by an operand, and what follows the operand decides
between an array, a union, an intersection and a type or null. After an opening brace
come members up to the closing brace, and possibly an index signature, which without a
semicolon behind it is the open object.

The number of levels that a reader may descend is its first argument. The pieces of a text
are more than its levels, so `ApiTypes.TypeScript.TypeExpr.read` starts with their number.
-/

namespace ApiTypes.TypeScript

open Output (Lexeme lexemes)

/-! ### Literals and names -/

/-- The text whose escaped form is given. -/
def unescape : Text → Text
  | '\\' :: c :: rest => c :: unescape rest
  | c :: rest => c :: unescape rest
  | [] => []

/-- The value of a literal, from quote to quote. -/
def unquote (t : Text) : Text := unescape t.tail.dropLast

/-- A character of a name. -/
def isNameChar (c : Char) : Bool := c.isAlphanum || c == '_' || c == '$'

/-- An identifier of the ASCII table. -/
def IsIdentifier (t : Text) : Prop :=
  t ≠ [] ∧ (∀ c ∈ t, isNameChar c) ∧ t.head?.all (!·.isDigit)

instance : DecidablePred IsIdentifier := fun _ => inferInstanceAs (Decidable (_ ∧ _ ∧ _))

theorem unescape_cons {c : Char} (hc : c ≠ '\\') (t : Text) :
    unescape (c :: t) = c :: unescape t := by
  rw [unescape]
  exact fun _ _ h _ => hc h

/-- Escaping can be undone. -/
theorem unescape_escape (q : Char) (t : Text) : unescape (escape q t) = t := by
  induction t with
  | nil => rfl
  | cons c t ih =>
    rw [escape_cons, escapeChar]
    by_cases hc : c = '\\' ∨ c = q
    · rw [if_pos hc, List.cons_append, List.singleton_append, unescape, ih]
    · rw [if_neg hc]
      rw [not_or] at hc
      rw [List.singleton_append, unescape_cons hc.1, ih]

/-- Quoting can be undone. -/
theorem unquote_quote (q : Char) (t : Text) : unquote (quote q t) = t := by
  rw [unquote, quote, List.tail_cons, List.dropLast_concat, unescape_escape]

/-! ### The reader -/

/-- Steps over the given characters. -/
def expect : Text → List Lexeme → Option (List Lexeme)
  | [], ls => some ls
  | c :: cs, .plain d :: ls => if c = d then expect cs ls else none
  | _ :: _, _ => none

/-- The longest name at the front, and what follows it. -/
def readName : List Lexeme → Text × List Lexeme
  | .plain c :: ls =>
    if isNameChar c then (c :: (readName ls).1, (readName ls).2) else ([], .plain c :: ls)
  | ls => ([], ls)

/-- The index keys at the front, and what follows them. -/
def readKeys : List Lexeme → List Text × List Lexeme
  | .plain '[' :: .token k :: .plain ']' :: ls => (unquote k :: (readKeys ls).1, (readKeys ls).2)
  | ls => ([], ls)

/-- The comment at the front, if there is one, and what follows it. -/
def readComment : List Lexeme → Text × List Lexeme
  | .token ('/' :: t) :: .plain '\n' :: ls => ('/' :: t ++ ['\n'], ls)
  | ls => ([], ls)

/-- Whether a question mark stands at the front, and what follows it. -/
def readMark : List Lexeme → Bool × List Lexeme
  | .plain '?' :: ls => (true, ls)
  | ls => (false, ls)

/-- What stands in front of the type that is made partial. -/
def partialName : Text := ['P', 'a', 'r', 't', 'i', 'a', 'l']

mutual

/-- A type at the front, and what follows it. -/
def readType : Nat → List Lexeme → Option (TypeExpr × List Lexeme)
  | 0, _ => none
  | n + 1, .plain '(' :: ls => do
    let (t, ls) ← readType n ls
    match expect [')', '[', ']'] ls with
    | some ls => some (.array t, ls)
    | none =>
      match expect [')', ' ', '|', ' ', 'n', 'u', 'l', 'l'] ls with
      | some ls => some (.nullable t, ls)
      | none =>
        match expect [')', ' ', '|', ' ', '('] ls with
        | some ls => do
          let (ts, ls) ← readOperands n '|' ls
          some (.union (t :: ts), ls)
        | none => do
          let ls ← expect [')', ' ', '&', ' ', '('] ls
          let (ts, ls) ← readOperands n '&' ls
          some (.intersection (t :: ts), ls)
  | n + 1, .plain '{' :: .plain ' ' :: ls => do
    let (ms, ls) ← readMembers n ls
    match expect Written.indexHead ls with
    | none => do
      let ls ← expect [' ', '}'] ls
      some (.block ms none, ls)
    | some ls => do
      let (t, ls) ← readType n ls
      match expect [' ', '}'] ls with
      | some ls => some (.openObject, ls)
      | none => do
        let ls ← expect [';', '\n', ' ', '}'] ls
        some (.block ms (some t), ls)
  | _ + 1, .token l :: ls => some (.literal (unquote l), ls)
  | n + 1, ls =>
    match readName ls with
    | ([], _) => none
    | (root, ls) =>
      match expect ['<'] ls with
      | some ls =>
        if root = partialName then do
          let (t, ls) ← readType n ls
          let ls ← expect ['>'] ls
          some (.partially t, ls)
        else none
      | none => some (.name root (readKeys ls).1, (readKeys ls).2)

/-- The operands that follow the first one, each with its closing parenthesis. -/
def readOperands : Nat → Char → List Lexeme → Option (List TypeExpr × List Lexeme)
  | 0, _, _ => none
  | n + 1, op, ls => do
    let (t, ls) ← readType n ls
    let ls ← expect [')'] ls
    match expect [' ', op, ' ', '('] ls with
    | some ls => do
      let (ts, ls) ← readOperands n op ls
      some (t :: ts, ls)
    | none => some ([t], ls)

/-- The members at the front, and what follows them. -/
def readMembers : Nat → List Lexeme → Option (List (Member TypeExpr) × List Lexeme)
  | 0, _ => none
  | n + 1, ls =>
    match readComment ls with
    | (comment, .token k :: ls) => do
      let ls' ← expect [':', ' '] (readMark ls).2
      let (t, ls') ← readType n ls'
      let ls' ← expect [';', '\n'] ls'
      let (ms, ls') ← readMembers n ls'
      some (⟨comment, unquote k, (readMark ls).1, t⟩ :: ms, ls')
    | (_, ls) => some ([], ls)

end

/-- **The type expression with a given text.** -/
def TypeExpr.read (code : Text) : Option TypeExpr :=
  match readType (lexemes code).length (lexemes code) with
  | some (t, []) => some t
  | _ => none

end ApiTypes.TypeScript
