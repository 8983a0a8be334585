import ApiTypes.TypeScript.Written

/-!
# Type expressions

What a schema is turned into before it is printed: a tree (`ApiTypes.TypeScript.TypeExpr`)
whose leaves are names with index keys, literals and the open object, and whose inner
nodes are unions, intersections, arrays, partial and nullable types, and blocks of
members. `ApiTypes.TypeScript.TypeExpr.text` prints it.

A union or an intersection of one member is that member
(`ApiTypes.TypeScript.TypeExpr.unionOf`, `ApiTypes.TypeScript.TypeExpr.intersectionOf`),
and some schemas have no type in a dialect: their expression is
`ApiTypes.TypeScript.TypeExpr.nothing`, which prints as the empty text.
-/

namespace ApiTypes.TypeScript

/-- A member of a block: a property signature with the comment in front of it. -/
structure Member (T : Type) where
  /-- The comment in front of the signature, as printed; empty when there is none. -/
  comment : Text
  /-- The name of the property. -/
  name : Text
  /-- Whether the property may be missing. -/
  optional : Bool
  /-- The type of the property. -/
  type : T

/-- **A type expression.** -/
inductive TypeExpr where
  /-- The empty expression. -/
  | nothing
  /-- A name, followed by index keys. -/
  | name (root : Text) (keys : List Text)
  /-- A literal type. -/
  | literal (value : Text)
  /-- A union. -/
  | union (members : List TypeExpr)
  /-- An intersection. -/
  | intersection (members : List TypeExpr)
  /-- An array. -/
  | array (element : TypeExpr)
  /-- A type with all of its members optional. -/
  | partially (type : TypeExpr)
  /-- A type or null. -/
  | nullable (type : TypeExpr)
  /-- An object without a declared shape. -/
  | openObject
  /-- An object with the given members and, possibly, an index signature. -/
  | block (members : List (Member TypeExpr)) (index : Option TypeExpr)

namespace TypeExpr

/-- The type that is not restricted. -/
def any : TypeExpr := name Written.any []

/-- The union of some types; a single type is not wrapped. -/
def unionOf : List TypeExpr → TypeExpr
  | [t] => t
  | ts => union ts

/-- The intersection of some types; a single type is not wrapped. -/
def intersectionOf : List TypeExpr → TypeExpr
  | [t] => t
  | ts => intersection ts

mutual

/-- **The text of a type expression.** -/
def text : TypeExpr → Text
  | nothing => []
  | name root keys => Written.indexed root keys
  | literal value => quoteLiteral value
  | union ts => Written.union (texts ts)
  | intersection ts => Written.intersection (texts ts)
  | array t => Written.array (text t)
  | partially t => Written.partially (text t)
  | nullable t => Written.nullable (text t)
  | openObject => Written.openObject
  | block ms index => Written.object (membersText ms ++ indexText index)
termination_by structural t => t

/-- The texts of some type expressions. -/
def texts : List TypeExpr → List Text
  | [] => []
  | t :: ts => text t :: texts ts
termination_by structural ts => ts

/-- **The text of a block of members**: one signature after the other, each with its
comment in front of it. -/
def membersText : List (Member TypeExpr) → Text
  | [] => []
  | ⟨comment, n, optional, type⟩ :: ms =>
    comment ++ Written.property n optional (text type) ++ membersText ms
termination_by structural ms => ms

/-- The text of an index signature. -/
def indexText : Option TypeExpr → Text
  | none => []
  | some t => Written.index (text t)
termination_by structural t => t

end

/-- Whether an expression prints as the empty text. -/
def isVoid : TypeExpr → Bool
  | nothing => true
  | name root keys => root.isEmpty && keys.isEmpty
  | union [t] => isVoid t
  | intersection [t] => isVoid t
  | _ => false

/-! ### The text of a list of expressions -/

theorem texts_eq_map (ts : List TypeExpr) : texts ts = ts.map text := by
  induction ts with
  | nil => rfl
  | cons t ts ih => simp [texts, ih]

/-- A union prints the same whether it is made by `unionOf` or not. -/
theorem text_unionOf (ts : List TypeExpr) :
    (unionOf ts).text = Written.union (ts.map text) := by
  match ts with
  | [] => rfl
  | [t] => rfl
  | t :: u :: us => rw [unionOf, text, texts_eq_map]; simp

/-- An intersection prints the same whether it is made by `intersectionOf` or not. -/
theorem text_intersectionOf (ts : List TypeExpr) :
    (intersectionOf ts).text = Written.intersection (ts.map text) := by
  match ts with
  | [] => rfl
  | [t] => rfl
  | t :: u :: us => rw [intersectionOf, text, texts_eq_map]; simp

theorem wrapped_ne_nil {op : Char} {ts : List Text} (h : ts.length ≠ 1) :
    Written.wrapped op ts ≠ [] := by
  match ts with
  | [] => simp [Written.wrapped]
  | [t] => simp at h
  | t :: u :: us => simp [Written.wrapped]

/-- The void expressions are those that print as the empty text. -/
theorem isVoid_iff (t : TypeExpr) : t.isVoid ↔ t.text = [] := by
  fun_induction isVoid t with
  | case1 => simp [text]
  | case2 root keys => cases keys <;> simp [text, Written.indexed]
  | case3 t ih => simpa [text, texts, Written.union, Written.wrapped] using ih
  | case4 t ih => simpa [text, texts, Written.intersection, Written.wrapped] using ih
  | case5 t h₁ h₂ h₃ h₄ =>
    cases t with
    | nothing => exact absurd rfl h₁
    | name root keys => exact absurd rfl (h₂ root keys)
    | literal => simp [text, quoteLiteral, quote]
    | union ts =>
      have : (texts ts).length ≠ 1 := by
        rw [texts_eq_map, List.length_map]
        intro h
        obtain ⟨t, rfl⟩ := List.length_eq_one_iff.1 h
        exact h₃ t rfl
      simp [text, Written.union, wrapped_ne_nil this]
    | intersection ts =>
      have : (texts ts).length ≠ 1 := by
        rw [texts_eq_map, List.length_map]
        intro h
        obtain ⟨t, rfl⟩ := List.length_eq_one_iff.1 h
        exact h₄ t rfl
      simp [text, Written.intersection, wrapped_ne_nil this]
    | array => simp [text, Written.array]
    | partially => simp [text, Written.partially]
    | nullable => simp [text, Written.nullable]
    | openObject => simp [text, Written.openObject]
    | block => simp [text, Written.object]

end TypeExpr

end ApiTypes.TypeScript
