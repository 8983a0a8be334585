import ApiTypes.Proofs.TypeScript.Formed

/-!
# The pieces of the written forms

What `ApiTypes.Output.lexemes` cuts the text of a type expression into, from what it cuts
the texts of the parts into. The punctuation of the written forms opens no comment and no
literal, so it is cut into single characters, and each name of a member, each index key and
each comment is a token.
-/

namespace ApiTypes.TypeScript

open Output

section Forms

variable {t : Text}

theorem lexemes_append_plain (ht : Closed t) {u : Text} (hu : ∀ c ∈ u, IsPlain c) :
    lexemes (t ++ u) = lexemes t ++ u.map .plain := by
  rw [ht, lexemes_of_plain hu]

theorem lexemes_array (ht : Closed t) :
    lexemes (Written.array t) = .plain '(' :: (lexemes t ++ [')', '[', ']'].map .plain) := by
  rw [Written.array, lexemes_cons_of_plain (by decide), lexemes_append_plain ht (by decide)]

theorem lexemes_nullable (ht : Closed t) :
    lexemes (Written.nullable t) =
      .plain '(' :: (lexemes t ++ [')', ' ', '|', ' ', 'n', 'u', 'l', 'l'].map .plain) := by
  rw [Written.nullable, lexemes_cons_of_plain (by decide), lexemes_append_plain ht (by decide)]

theorem lexemes_partially (ht : Closed t) :
    lexemes (Written.partially t) =
      ['P', 'a', 'r', 't', 'i', 'a', 'l', '<'].map .plain ++ lexemes t ++ ['>'].map .plain := by
  have hclosed : Closed (['P', 'a', 'r', 't', 'i', 'a', 'l', '<'] ++ t) :=
    (closed_of_plain (by decide)).append ht
  rw [Written.partially, lexemes_append_plain hclosed (by decide), lexemes_plain_append (by decide)]

/-- The pieces of some index keys. -/
def keyLexemes (keys : List Text) : List Lexeme :=
  keys.flatMap fun k => [.plain '[', .token (quoteKey k), .plain ']']

theorem lexemes_indexed (ht : ∀ c ∈ t, IsPlain c) (keys : List Text) :
    lexemes (Written.indexed t keys) = t.map .plain ++ keyLexemes keys := by
  rw [Written.indexed, lexemes_plain_append ht]
  congr 1
  induction keys with
  | nil => exact lexemes_nil
  | cons k keys ih =>
    rw [List.flatMap_cons, List.cons_append, List.append_assoc,
      lexemes_cons_of_plain (by decide), quoteKey, lexemes_quote_append (.inl rfl),
      List.singleton_append, lexemes_cons_of_plain (by decide), ih]
    rfl

theorem lexemes_object (ht : Closed t) :
    lexemes (Written.object t) =
      .plain '{' :: .plain ' ' :: (lexemes t ++ [' ', '}'].map .plain) := by
  rw [Written.object, lexemes_cons_of_plain (by decide), lexemes_cons_of_plain (by decide),
    lexemes_append_plain ht (by decide)]

theorem lexemes_index (ht : Closed t) :
    lexemes (Written.index t) =
      Written.indexHead.map .plain ++ lexemes t ++ [';', '\n'].map .plain := by
  have hclosed : Closed (Written.indexHead ++ t) := (closed_of_plain (by decide)).append ht
  rw [Written.index, lexemes_append_plain hclosed (by decide), lexemes_plain_append (by decide)]

/-- The pieces of the mark of an optional member. -/
def markLexemes (optional : Bool) : List Lexeme := if optional then [.plain '?'] else []

theorem lexemes_property (name : Text) (optional : Bool) (ht : Closed t) :
    lexemes (Written.property name optional t) =
      .token (quoteKey name) :: (markLexemes optional ++
        ([':', ' '].map .plain ++ lexemes t ++ [';', '\n'].map .plain)) := by
  have htype : lexemes (':' :: ' ' :: (t ++ [';', '\n'])) =
      [':', ' '].map .plain ++ lexemes t ++ [';', '\n'].map .plain := by
    rw [lexemes_cons_of_plain (by decide), lexemes_cons_of_plain (by decide),
      lexemes_append_plain ht (by decide)]
    rfl
  rw [Written.property, quoteKey, List.append_assoc, lexemes_quote_append (.inl rfl), ← htype]
  congr 1
  cases optional
  · rfl
  · exact lexemes_cons_of_plain (by decide) _

end Forms

/-! ### Operands -/

/-- What stands between two operands. -/
def between (op : Char) : Text := [')', ' ', op, ' ', '(']

@[simp]
theorem length_between (op : Char) : (between op).length = 5 := rfl

theorem isPlain_between {op : Char} (hop : IsPlain op) : ∀ c ∈ between op, IsPlain c := by
  intro c hc
  simp only [between, List.mem_cons, List.not_mem_nil, or_false] at hc
  rcases hc with rfl | rfl | rfl | rfl | rfl
  all_goals first | exact hop | decide

theorem lexemes_operands {op : Char} (hop : IsPlain op) {t u : Text} (ht : Closed t)
    (us : List Text) :
    lexemes (Text.join (between op) (t :: u :: us) ++ [')']) =
      lexemes t ++ ((between op).map .plain ++
        lexemes (Text.join (between op) (u :: us) ++ [')'])) := by
  rw [Text.join, List.append_assoc, List.append_assoc, ht,
    lexemes_plain_append (isPlain_between hop)]

/-- The pieces of a union or an intersection of several members. -/
theorem lexemes_wrapped {op : Char} (hop : IsPlain op) {t u : Text} (ht : Closed t)
    (us : List Text) :
    lexemes (Written.wrapped op (t :: u :: us)) =
      .plain '(' :: (lexemes t ++ ((between op).map .plain ++
        lexemes (Text.join (between op) (u :: us) ++ [')']))) := by
  rw [← lexemes_operands hop ht, ← lexemes_cons_of_plain (by decide)]
  rfl

/-! ### Blocks -/

section Blocks

variable {ms : List (Member TypeExpr)} {t : TypeExpr}

/-- The pieces of a member: its comment, its name, its mark and its type. -/
theorem lexemes_membersText_cons {m : Member TypeExpr} (hcomment : IsComment m.comment)
    (hcode : Code m.type.text) (ms : List (Member TypeExpr)) :
    lexemes (TypeExpr.membersText (m :: ms)) =
      lexemes m.comment ++ .token (quoteKey m.name) :: (markLexemes m.optional ++
        (.plain ':' :: .plain ' ' :: (lexemes m.type.text ++
          (.plain ';' :: .plain '\n' :: lexemes (TypeExpr.membersText ms))))) := by
  have hproperty : Code (Written.property m.name m.optional m.type.text) :=
    .property m.name m.optional hcode
  rw [TypeExpr.membersText, (hcomment.code.append hproperty).closed, hcomment.code.closed,
    lexemes_property _ _ hcode.closed]
  simp only [List.append_assoc, List.cons_append, List.map_cons, List.map_nil, List.nil_append]

theorem lexemes_block_none (hms : Closed (TypeExpr.membersText ms)) :
    lexemes (TypeExpr.block ms none).text =
      .plain '{' :: .plain ' ' :: (lexemes (TypeExpr.membersText ms) ++ [' ', '}'].map .plain) := by
  rw [TypeExpr.text, TypeExpr.indexText, List.append_nil]
  exact lexemes_object hms

theorem lexemes_block_some (hms : Closed (TypeExpr.membersText ms)) (ht : Closed t.text) :
    lexemes (TypeExpr.block ms (some t)).text =
      .plain '{' :: .plain ' ' :: (lexemes (TypeExpr.membersText ms) ++
        (Written.indexHead.map .plain ++ (lexemes t.text ++
          [';', '\n', ' ', '}'].map .plain))) := by
  have hindex : Closed (Written.index t.text) :=
    ((closed_of_plain (by decide)).append ht).append (closed_of_plain (by decide))
  rw [TypeExpr.text, TypeExpr.indexText, lexemes_object (hms.append hindex), hms,
    lexemes_index ht]
  simp only [List.append_assoc, List.map_cons, List.map_nil, List.cons_append, List.nil_append]

end Blocks

end ApiTypes.TypeScript
