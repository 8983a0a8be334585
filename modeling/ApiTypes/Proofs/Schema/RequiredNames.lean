import ApiTypes.Proofs.Schema.Rendered
import Mathlib.Data.List.Infix

/-!
# Required names

A property is required if its name is among the texts of the entries of `required`. The name is the
text of a key of any kind, but not every entry counts: only a string, a number or a truth value
does (`ApiTypes.Schema.mem_requiredNames_iff`).

The block of an object stands in its text (`ApiTypes.Schema.infix_typeText`), and so does the
signature of each property, with a question mark if the property is not required
(`ApiTypes.Schema.membersText_append`, `ApiTypes.Schema.membersText_cons`).
-/

namespace ApiTypes

/-- Each text stands in what they are joined to. -/
theorem Text.infix_join {sep t : Text} {ts : List Text} (h : t ∈ ts) : t <:+: join sep ts := by
  induction ts with
  | nil => exact absurd h List.not_mem_nil
  | cons u ts ih =>
    cases ts with
    | nil => exact List.mem_singleton.1 h ▸ List.infix_rfl
    | cons w ts =>
      rw [join]
      rcases List.mem_cons.1 h with rfl | h
      · exact ((List.prefix_append t sep).trans (List.prefix_append _ _)).isInfix
      · exact (ih h).trans (List.suffix_append _ _).isInfix

/-- Each operand stands in what it is an operand of. -/
theorem TypeScript.Written.infix_wrapped {op : Char} {t : Text} {ts : List Text} (h : t ∈ ts) :
    t <:+: wrapped op ts := by
  unfold wrapped
  split
  · exact List.mem_singleton.1 h ▸ List.infix_rfl
  · exact ((Text.infix_join h).trans (List.prefix_append _ _).isInfix).trans (List.infix_cons_iff.2
      (.inr List.infix_rfl))

namespace Schema

open TypeScript

/-! ### The names that count -/

/-- **Whether an entry of a list of required names counts**: whether it is a string, a number or a
truth value. -/
def isName : Value → Bool
  | .str _ | .int _ | .float _ | .nan _ | .bool _ => true
  | _ => false

theorem requiredName?_eq (v : Value) :
    requiredName? v = if isName v then some v.text else none := by
  cases v <;> rfl

/-- **A name is a required one** if it is the text of an entry that counts. -/
theorem mem_requiredNames_iff {items : List Value} {name : Text} :
    name ∈ requiredNames items ↔ ∃ item ∈ items, isName item ∧ item.text = name := by
  simp only [requiredNames, List.mem_filterMap, requiredName?_eq, Option.ite_none_right_eq_some,
    Option.some.injEq]

/-! ### The signatures of an object -/

theorem membersText_cons (d : Dialect) (key schema : Value) (behind : Entries)
    (required : List Text) :
    membersText d ((key, schema) :: behind) required =
      commentOf (Node.ofValue schema) ++
        Written.property key.text (decide (key.text ∉ required))
          (propertyType d (Node.ofValue schema) (typeOf d schema)).text ++
        membersText d behind required := rfl

/-- The properties of a block are written one after the other. -/
theorem membersText_append (d : Dialect) (front behind : Entries) (required : List Text) :
    membersText d (front ++ behind) required =
      membersText d front required ++ membersText d behind required := by
  induction front with
  | nil => rfl
  | cons e front ih =>
    obtain ⟨key, schema⟩ := e
    rw [List.cons_append, membersText_cons, membersText_cons, ih,
      List.append_assoc _ (membersText ..)]

/-- **The block of an object stands in its text**, if it has properties. -/
theorem infix_typeText (d : Dialect) {es : Entries} (hobject : classify (.map es) = .object)
    (hprops : mapField es "properties" ≠ []) :
    membersText d (mapField es "properties") (requiredNames (listField es "required")) <:+:
      typeText d (.map es) := by
  have hshape : (Node.ofValue (.map es)).shape =
      .object (mapField es "properties") (requiredNames (listField es "required"))
        (listField es "allOf") (valueField es "additionalProperties") := by
    rw [Node.ofValue, hobject]
    rfl
  obtain ⟨e, rest, hcons⟩ := List.exists_cons_of_ne_nil hprops
  have hmembers : (membersOf d (typeOf d) (mapField es "properties")
      (requiredNames (listField es "required"))).isEmpty = false := by
    rw [hcons]
    rfl
  rw [typeText, typeOf_eq, Node.typeWith_of_object hshape, objectOf, ownBlock, hmembers]
  simp only [Bool.false_and, Bool.false_eq_true, if_false]
  rw [TypeExpr.text_intersectionOf, List.map_append, List.map_singleton, TypeExpr.text]
  refine List.IsInfix.trans ?_ (Written.infix_wrapped (List.mem_append_right _ List.mem_cons_self))
  rw [Written.object, ← membersText]
  exact ((List.prefix_append _ _).trans (List.prefix_append _ _)).isInfix.trans
    (List.suffix_append ['{', ' '] _).isInfix

end Schema

end ApiTypes
