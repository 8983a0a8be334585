import ApiTypes.TypeScript.Expr

/-!
# Types without marks

Two type expressions that are the same up to which members are marked as optional are the
same once all marks are removed (`ApiTypes.TypeScript.TypeExpr.unmarked`). Removing them
commutes with everything that type expressions are made with, and it does not change
whether a type prints as the empty text.
-/

namespace ApiTypes.TypeScript

namespace TypeExpr

mutual

/-- **A type expression without marks**: no member in it is optional. -/
def unmarked : TypeExpr → TypeExpr
  | nothing => nothing
  | name root keys => name root keys
  | literal value => literal value
  | union ts => union (unmarkedTypes ts)
  | intersection ts => intersection (unmarkedTypes ts)
  | array t => array (unmarked t)
  | partially t => partially (unmarked t)
  | nullable t => nullable (unmarked t)
  | openObject => openObject
  | block ms index => block (unmarkedMembers ms) (unmarkedIndex index)
termination_by structural t => t

/-- Some type expressions without marks. -/
def unmarkedTypes : List TypeExpr → List TypeExpr
  | [] => []
  | t :: ts => unmarked t :: unmarkedTypes ts
termination_by structural ts => ts

/-- Some members without marks. -/
def unmarkedMembers : List (Member TypeExpr) → List (Member TypeExpr)
  | [] => []
  | ⟨comment, n, _, type⟩ :: ms => ⟨comment, n, false, unmarked type⟩ :: unmarkedMembers ms
termination_by structural ms => ms

/-- The type of an index signature without marks. -/
def unmarkedIndex : Option TypeExpr → Option TypeExpr
  | none => none
  | some t => some (unmarked t)
termination_by structural t => t

end

/-- A member without marks. -/
def unmarkedMember (m : Member TypeExpr) : Member TypeExpr :=
  { m with optional := false, type := m.type.unmarked }

theorem unmarkedTypes_eq_map (ts : List TypeExpr) : unmarkedTypes ts = ts.map unmarked := by
  induction ts with
  | nil => rfl
  | cons t ts ih => rw [unmarkedTypes, ih, List.map_cons]

theorem unmarkedMembers_eq_map (ms : List (Member TypeExpr)) :
    unmarkedMembers ms = ms.map unmarkedMember := by
  induction ms with
  | nil => rfl
  | cons m ms ih =>
    rw [unmarkedMembers, ih, List.map_cons]
    rfl

theorem unmarkedIndex_eq_map (index : Option TypeExpr) :
    unmarkedIndex index = index.map unmarked := by
  cases index <;> rfl

theorem unmarked_unionOf (ts : List TypeExpr) :
    (unionOf ts).unmarked = unionOf (ts.map unmarked) := by
  match ts with
  | [t] => rfl
  | [] => rfl
  | t :: u :: us => exact congrArg union (unmarkedTypes_eq_map (t :: u :: us))

theorem unmarked_intersectionOf (ts : List TypeExpr) :
    (intersectionOf ts).unmarked = intersectionOf (ts.map unmarked) := by
  match ts with
  | [t] => rfl
  | [] => rfl
  | t :: u :: us => exact congrArg intersection (unmarkedTypes_eq_map (t :: u :: us))

/-- Removing the marks does not make a type void. -/
theorem isVoid_unmarked (t : TypeExpr) : t.unmarked.isVoid = t.isVoid := by
  fun_induction isVoid t with
  | case1 => rfl
  | case2 root keys => rfl
  | case3 t ih => exact ih
  | case4 t ih => exact ih
  | case5 t h₁ h₂ h₃ h₄ =>
    cases t with
    | nothing => exact absurd rfl h₁
    | name root keys => exact absurd rfl (h₂ root keys)
    | union ts =>
      obtain _ | ⟨t, _ | ⟨u, us⟩⟩ := ts
      · rfl
      · exact absurd rfl (h₃ t)
      · rfl
    | intersection ts =>
      obtain _ | ⟨t, _ | ⟨u, us⟩⟩ := ts
      · rfl
      · exact absurd rfl (h₄ t)
      · rfl
    | _ => rfl

end TypeExpr

end ApiTypes.TypeScript
