import ApiTypes.Proofs.TypeScript.Operand

/-!
# The types of schemas can be read back

In OpenAPI 3 the text of the type of a schema says what the type is
(`ApiTypes.Schema.typeText_unambiguous`), provided that its rendered pointers begin with
identifiers and that no rendered list of values or variants is empty. The first condition
is about names alone; the second one shows in the text, which has an operand with nothing in it
exactly when it fails.
-/

namespace ApiTypes.Schema

open Output TypeScript TypeExpr

variable {schema v : Value}

theorem isIdentifier_of_mem_keywords : ∀ w ∈ keywords, IsIdentifier w := by
  decide

theorem formed_of_pointerRoots (void : Prop) (h : PointerRoots .openapi3 IsIdentifier schema)
    (hempty : HasEmptyChoice .openapi3 schema → void) :
    Formed IsIdentifier void (typeOf .openapi3 schema) :=
  formed_typeOf isIdentifier_of_mem_keywords (fun h => (nomatch h)) schema h hempty

theorem code_typeText (h : PointerRoots .openapi3 IsIdentifier schema) :
    Code (typeText .openapi3 schema) :=
  (formed_of_pointerRoots True h fun _ => trivial).code fun _ hr => hr.code

/-! ### Empty operands -/

/-- A choice of nothing is printed as an empty operand. -/
theorem hasEmptyOperand_of_shape
    (h : (Node.ofValue schema).shape = .enum [] ∨ (Node.ofValue schema).shape = .union []) :
    HasEmptyOperand (typeText .openapi3 schema) := by
  have htext : typeText .openapi3 schema = ['(', ')'] := by
    rw [typeText, typeOf_eq, Node.typeWith]
    rcases h with h | h
    · rw [h]
      rfl
    · rw [h]
      simp only [unionType]
      split <;> rfl
  rw [htext, HasEmptyOperand, lexemes_of_plain (by decide)]
  decide

/-! ### Parts of the type of an object -/

section Object

variable {members : List (Member TypeExpr)} {bases : List TypeExpr} {index : Option TypeExpr}
  {t : TypeExpr}

theorem isPart_objectOf (hclosed : ∀ t ∈ bases ++ ownBlock members index, Closed t.text)
    (ht : t ∈ bases ++ ownBlock members index) :
    IsPart t.text (objectOf members bases index).text := by
  unfold objectOf
  split
  · next hopen =>
    -- an open object has neither bases nor a block of its own
    simp only [Bool.and_eq_true] at hopen
    simp [ownBlock, hopen, List.isEmpty_iff.1 hopen.1.2] at ht
  · rw [text_intersectionOf]
    refine isPart_wrapped (by decide) ?_ (List.mem_map_of_mem ht)
    intro code hcode
    obtain ⟨u, hu, rfl⟩ := List.mem_map.1 hcode
    exact hclosed u hu

theorem mem_ownBlock_of_member {m : Member TypeExpr} (hm : m ∈ members) :
    .block members index ∈ ownBlock members index := by
  have hne : members.isEmpty = false := List.isEmpty_eq_false_iff.2 (List.ne_nil_of_mem hm)
  simp [ownBlock, hne]

theorem mem_ownBlock_of_index (t : TypeExpr) :
    .block members (some t) ∈ ownBlock members (some t) := by
  simp [ownBlock]

theorem isPart_propertyType (d : Dialect) (node : Node) (t : TypeExpr) :
    IsPart t.text (propertyType d node t).text := by
  unfold propertyType
  split
  · exact isPart_nullable _
  · exact .refl _

/-- The type of a member is a part of the block that the member belongs to. -/
theorem isPart_block_member (hcomment : ∀ m ∈ members, IsComment m.comment)
    (hcode : ∀ m ∈ members, Code m.type.text) {m : Member TypeExpr} (hm : m ∈ members) :
    IsPart m.type.text (TypeExpr.block members index).text :=
  ((isPart_membersText hcomment hcode hm).trans
    ⟨[], indexText index, closed_nil, rfl⟩).trans (isPart_object _)

/-- The type of the further properties is a part of the block. -/
theorem isPart_block_index (hcomment : ∀ m ∈ members, IsComment m.comment)
    (hcode : ∀ m ∈ members, Code m.type.text) (t : TypeExpr) :
    IsPart t.text (TypeExpr.block members (some t)).text :=
  have hmembers : Closed (TypeExpr.membersText members) :=
    (TypeExpr.code_membersText hcomment hcode).closed
  ((isPart_index t.text).trans
    ⟨TypeExpr.membersText members, [], hmembers, by simp [indexText]⟩).trans (isPart_object _)

end Object

/-- Further properties whose type has an empty operand are printed with it. -/
theorem additionalType_eq_of_hasEmptyOperand {additional : Value}
    (h : HasEmptyOperand (typeText .openapi3 additional)) :
    additionalType .openapi3 (typeOf .openapi3) additional = typeOf .openapi3 additional := by
  unfold additionalType
  split
  · rfl
  · dsimp only
    split
    · next hvoid =>
      rw [typeText, (isVoid_iff _).1 hvoid, HasEmptyOperand, lexemes_nil] at h
      exact absurd h Text.not_hasPair_nil
    · rfl

/-! ### Empty operands show outside -/

section Rendered

variable (hroots : PointerRoots .openapi3 IsIdentifier schema)
include hroots

theorem formed_of_rendered (hv : v ∈ (Node.ofValue schema).rendered .openapi3) :
    Formed IsIdentifier True (typeOf .openapi3 v) :=
  formed_of_pointerRoots True (hroots.inside hv) fun _ => trivial

theorem closed_of_rendered (hv : v ∈ (Node.ofValue schema).rendered .openapi3) :
    Closed (typeText .openapi3 v) :=
  (code_typeText (hroots.inside hv)).closed

/-- An empty operand of a schema in an object is one of the object. -/
theorem hasEmptyOperand_objectType {properties : Entries} {required : List Text}
    {allOf : List Value} {additional : Value}
    (hs : (Node.ofValue schema).shape = .object properties required allOf additional)
    (hv : v ∈ (Node.ofValue schema).children) (hclosed : Closed (typeText .openapi3 v))
    (h : HasEmptyOperand (typeText .openapi3 v)) :
    HasEmptyOperand
      (objectType .openapi3 (typeOf .openapi3) properties required allOf additional).text := by
  rw [objectType_eq]
  set members := membersOf .openapi3 (typeOf .openapi3) properties required with hmembers
  set index := indexType .openapi3 (typeOf .openapi3) additional with hindex
  have hcomment : ∀ m ∈ members, IsComment m.comment := fun m hm => isComment_of_mem_membersOf hm
  have htype : ∀ m ∈ members, Formed IsIdentifier True m.type := fun m hm =>
    formed_of_mem_membersOf
      (fun e he => formed_of_rendered hroots (Node.rendered_property hs he)) hm
  have hcode : ∀ m ∈ members, Code m.type.text := fun m hm =>
    (htype m hm).code fun _ hr => hr.code
  have hfurther : ∀ t ∈ index, Formed IsIdentifier True t := fun t ht =>
    formed_of_mem_indexType isIdentifier_of_mem_keywords
      (fun ha => formed_of_rendered hroots (Node.rendered_additional hs ha)) ht
  have hall : ∀ t ∈ allOf.map (typeOf .openapi3) ++ ownBlock members index, Closed t.text := by
    intro t ht
    rcases List.mem_append.1 ht with ht | ht
    · obtain ⟨w, hw, rfl⟩ := List.mem_map.1 ht
      exact closed_of_rendered hroots (Node.rendered_base hs hw)
    · exact ((formed_of_mem_ownBlock hcomment htype hfurther ht).code fun _ hr => hr.code).closed
  -- the schema is that of a property, a base, or that of further properties
  simp only [Node.children, hs, List.mem_append] at hv
  rcases hv with (hv | hv) | hv
  · obtain ⟨e, he, rfl⟩ := List.mem_map.1 hv
    have hm : memberOf .openapi3 (typeOf .openapi3) required e.1 e.2 ∈ members :=
      List.mem_map_of_mem he
    have hblock : IsPart (typeText .openapi3 e.2) (TypeExpr.block members index).text :=
      (isPart_propertyType _ _ _).trans (isPart_block_member hcomment hcode hm)
    exact h.of_part hclosed (hblock.trans
      (isPart_objectOf hall (List.mem_append_right _ (mem_ownBlock_of_member hm))))
  · exact h.of_part hclosed
      (isPart_objectOf hall (List.mem_append_left _ (List.mem_map_of_mem hv)))
  · split at hv
    · next ha =>
      rw [List.mem_singleton.1 hv] at h hclosed
      have hsome : index = some (typeOf .openapi3 additional) := by
        rw [hindex, indexType, if_pos ha, additionalType_eq_of_hasEmptyOperand h]
      rw [hsome] at hall ⊢
      exact h.of_part hclosed ((isPart_block_index hcomment hcode _).trans
        (isPart_objectOf hall (List.mem_append_right _ (mem_ownBlock_of_index _))))
    · simp at hv

/-- **An empty operand inside of a rendered schema shows outside of it.** -/
theorem hasEmptyOperand_of_rendered (hv : v ∈ (Node.ofValue schema).rendered .openapi3)
    (h : HasEmptyOperand (typeText .openapi3 v)) : HasEmptyOperand (typeText .openapi3 schema) := by
  have hclosed := closed_of_rendered hroots hv
  have hmem := Node.mem_children_of_rendered hv
  rw [typeText, typeOf_eq, Node.typeWith]
  cases hs : (Node.ofValue schema).shape with
  | union variants =>
    have hvariants : ∀ w ∈ variants, Closed (typeText .openapi3 w) := fun w hw =>
      closed_of_rendered hroots (by simpa [Node.rendered, Node.children, hs] using hw)
    have hv' : v ∈ variants := by simpa [Node.children, hs] using hmem
    simp only [unionType]
    split
    · rw [text_unionOf, List.map_map]
      refine h.of_part hclosed (isPart_wrapped (by decide) ?_ (List.mem_map_of_mem hv'))
      intro code hcode
      obtain ⟨w, hw, rfl⟩ := List.mem_map.1 hcode
      exact hvariants w hw
    · rw [text_intersectionOf, List.map_map]
      refine h.of_part hclosed ((isPart_partially _).trans
        (isPart_wrapped (by decide) ?_ (List.mem_map_of_mem hv')))
      intro code hcode
      obtain ⟨w, hw, rfl⟩ := List.mem_map.1 hcode
      exact ((closed_of_plain (by decide)).append (hvariants w hw)).append
        (closed_of_plain (by decide))
  | array items =>
    obtain rfl : v = items := by simpa [Node.children, hs] using hmem
    exact h.of_part hclosed (isPart_array _)
  | object properties required allOf additional =>
    exact hasEmptyOperand_objectType hroots hs hmem hclosed h
  | _ => simp [Node.children, hs] at hmem

end Rendered

/-- **A choice of nothing shows in the text, and nothing else does so**: an operand is empty
exactly when some rendered list of values or variants is. -/
theorem hasEmptyChoice_iff (hroots : PointerRoots .openapi3 IsIdentifier schema) :
    HasEmptyChoice .openapi3 schema ↔ HasEmptyOperand (typeText .openapi3 schema) := by
  constructor
  · rintro ⟨v, hv, hempty⟩
    -- from the schema with the empty list outwards
    induction hv with
    | self schema => exact hasEmptyOperand_of_shape hempty
    | inside hw _ ih => exact hasEmptyOperand_of_rendered hroots hw (ih (hroots.inside hw) hempty)
  · intro h
    -- a type without such a list is formed, even when nothing may be void
    by_contra hne
    exact (formed_of_pointerRoots False hroots hne).not_hasEmptyOperand h

/-- **The text of a type in OpenAPI 3 is unambiguous.** When the rendered pointers of a schema
begin with identifiers and none of its rendered lists of values and variants is empty, its type
is read off its text, so that no other such schema has the same text and another type. When
one of these lists is empty, and only then, the text has an operand with nothing in it. -/
theorem typeText_unambiguous (hroots : PointerRoots .openapi3 IsIdentifier schema) :
    (¬HasEmptyChoice .openapi3 schema →
      TypeExpr.read (typeText .openapi3 schema) = some (typeOf .openapi3 schema) ∧
      ∀ other, PointerRoots .openapi3 IsIdentifier other → ¬HasEmptyChoice .openapi3 other →
        typeText .openapi3 other = typeText .openapi3 schema →
          typeOf .openapi3 other = typeOf .openapi3 schema) ∧
    (HasEmptyChoice .openapi3 schema ↔ HasEmptyOperand (typeText .openapi3 schema)) := by
  have hread : ∀ s, PointerRoots .openapi3 IsIdentifier s → ¬HasEmptyChoice .openapi3 s →
      TypeExpr.read (typeText .openapi3 s) = some (typeOf .openapi3 s) :=
    fun s hs hne => (formed_of_pointerRoots False hs hne).read_text
  refine ⟨fun hne => ⟨hread schema hroots hne, fun other hother hne' htext => ?_⟩,
    hasEmptyChoice_iff hroots⟩
  have h := hread other hother hne'
  rw [htext, hread schema hroots hne] at h
  exact (Option.some.inj h).symm

/-- Literals that look like code. -/
def marks : Value := .map [(.str "enum", .list [.str "()", .str "'"])]

/-- A pointer to a schema. -/
def pet : Value := .map [(.str "$ref", .str "#/components/schemas/Pet")]

/-- A choice between that pointer and an array of those literals. -/
def petOrMarks : Value := .map [(.str "oneOf", .list [pet, .map [(.str "items", marks)]])]

/-- The type of that choice is read off its text, in which no operand is empty. -/
theorem typeText_petOrMarks :
    (PointerRoots .openapi3 IsIdentifier petOrMarks ∧ ¬HasEmptyChoice .openapi3 petOrMarks) ∧
      TypeExpr.read (typeText .openapi3 petOrMarks) = some (.union
        [.name "components".toList ["schemas".toList, "Pet".toList],
          .array (.union [.literal "()".toList, .literal "'".toList])]) ∧
      ¬HasEmptyOperand (typeText .openapi3 petOrMarks) := by
  have hmem : ∀ v, Rendered .openapi3 petOrMarks v →
      v ∈ [petOrMarks, pet, .map [(.str "items", marks)], marks] := by
    refine fun v hv => hv.invariant List.mem_cons_self fun v hv w hw => ?_
    simp only [List.mem_cons, List.not_mem_nil, or_false] at hv ⊢
    rcases hv with rfl | rfl | rfl | rfl
    · rcases List.mem_cons.1 (show w ∈ [pet, .map [(.str "items", marks)]] from hw) with hw | hw
      · exact .inr (.inl hw)
      · exact .inr (.inr (.inl (List.mem_singleton.1 hw)))
    · nomatch hw
    · exact .inr (.inr (.inr (List.mem_singleton.1 hw)))
    · nomatch hw
  have hroots : PointerRoots .openapi3 IsIdentifier petOrMarks := by
    intro v hv path hpath
    rcases List.mem_cons.1 (hmem v hv) with rfl | hv
    · nomatch hpath
    rcases List.mem_cons.1 hv with rfl | hv
    · obtain rfl : "#/components/schemas/Pet".toList = path := Shape.ref.inj hpath
      decide
    rcases List.mem_cons.1 hv with rfl | hv
    · nomatch hpath
    · obtain rfl := List.mem_singleton.1 hv
      nomatch hpath
  have hchoice : ¬HasEmptyChoice .openapi3 petOrMarks := by
    rintro ⟨v, hv, hempty⟩
    have hv' := hmem v hv
    simp only [List.mem_cons, List.not_mem_nil, or_false] at hv'
    rcases hv' with rfl | rfl | rfl | rfl <;> rcases hempty with h | h <;> nomatch h
  have htype : typeOf .openapi3 petOrMarks = .union
      [.name "components".toList ["schemas".toList, "Pet".toList],
        .array (.union [.literal "()".toList, .literal "'".toList])] := rfl
  obtain ⟨hread, hempty⟩ := typeText_unambiguous hroots
  exact ⟨⟨hroots, hchoice⟩, htype ▸ (hread hchoice).1, fun h => hchoice (hempty.2 h)⟩

end ApiTypes.Schema
