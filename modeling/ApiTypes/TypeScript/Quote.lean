import ApiTypes.Text.Basic

/-!
# String literals

A string literal stands between two quotes of one kind. Inside it, the backslash and
that quote are written behind a backslash, and every other character is written as it
is. Property names are quoted with the double quote
(`ApiTypes.TypeScript.quoteKey`), literal types with the single quote
(`ApiTypes.TypeScript.quoteLiteral`).
-/

namespace ApiTypes.TypeScript

/-- A character of a literal in quotes `q`. -/
def escapeChar (q c : Char) : Text :=
  if c = '\\' ∨ c = q then ['\\', c] else [c]

/-- The inside of a literal in quotes `q`. -/
def escape (q : Char) (t : Text) : Text := t.flatMap (escapeChar q)

/-- A literal in quotes `q`. -/
def quote (q : Char) (t : Text) : Text := q :: (escape q t ++ [q])

/-- A property name between double quotes. -/
def quoteKey (name : Text) : Text := quote '"' name

/-- A literal type between single quotes. -/
def quoteLiteral (t : Text) : Text := quote '\'' t

@[simp]
theorem escape_nil (q : Char) : escape q [] = [] := rfl

@[simp]
theorem escape_cons (q c : Char) (t : Text) :
    escape q (c :: t) = escapeChar q c ++ escape q t := rfl

@[simp]
theorem escape_append (q : Char) (t u : Text) :
    escape q (t ++ u) = escape q t ++ escape q u := by
  simp [escape, List.flatMap_append]

end ApiTypes.TypeScript
