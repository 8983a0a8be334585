import ApiTypes.Proofs.TypeScript.ReadBack

/-!
# Empty operands

A union or an intersection of nothing is printed as a pair of parentheses with nothing
between them, which is no type. The type expressions of schemas print as such a pair
nowhere, unless they have such a part (`ApiTypes.TypeScript.TypeExpr.Formed.filled`), and
a part that is printed so shows in the text of the whole
(`ApiTypes.TypeScript.HasEmptyOperand.of_part`).

Parentheses inside of comments and literals do not count, so both are said of the pieces
of a text.
-/

namespace ApiTypes.TypeScript

open Output

/-- **Some operand is empty**: an opening parenthesis is followed by a closing one, outside
of comments and literals. -/
def HasEmptyOperand (code : Text) : Prop :=
  Text.HasPair (Lexeme.plain '(') (Lexeme.plain ')') (lexemes code)

/-! ### Pieces that can be put side by side -/

/-- No operand in these pieces is empty, and none becomes so when more pieces are put in
front of them or behind them. -/
structure Filled (ls : List Lexeme) : Prop where
  /-- No closing parenthesis stands at the front. -/
  head : ls.head? ≠ some (.plain ')')
  /-- No opening parenthesis stands at the end. -/
  last : ls.getLast? ≠ some (.plain '(')
  /-- No operand is empty. -/
  pair : ¬Text.HasPair (.plain '(') (.plain ')') ls

namespace Filled

variable {ls ms : List Lexeme}

theorem of_not_mem (hopen : .plain '(' ∉ ls) (hclose : .plain ')' ∉ ls) : Filled ls where
  head := fun h => hclose (List.mem_of_head? h)
  last := fun h => hopen (List.mem_of_getLast? h)
  pair := Text.not_hasPair_of_not_mem hclose

theorem append (hl : Filled ls) (hm : Filled ms) : Filled (ls ++ ms) where
  head := by
    cases ls with
    | nil => exact hm.head
    | cons l ls => exact hl.head
  last := by
    cases ms using List.reverseRecOn with
    | nil => simpa using hl.last
    | append_singleton ms m _ => simpa using hm.last
  pair := by
    rw [Text.hasPair_append]
    -- across the border it would take an opening parenthesis at the end of `ls`
    rintro (h | ⟨h, -⟩ | h)
    · exact hl.pair h
    · exact hl.last h
    · exact hm.pair h

/-- Something between parentheses. -/
theorem parens (h : Filled ls) (hne : ls ≠ []) :
    Filled (.plain '(' :: (ls ++ [.plain ')'])) where
  head := by simp
  last := by
    rw [← List.cons_append, List.getLast?_concat]
    simp
  pair := by
    rw [Text.hasPair_cons, Text.hasPair_append]
    rintro (⟨-, hhead⟩ | hp | ⟨hlast, -⟩ | hp)
    · cases ls with
      | nil => exact hne rfl
      | cons l ls => exact h.head hhead
    · exact h.pair hp
    · exact h.last hlast
    · exact absurd hp (by decide)

end Filled

/-! ### The pieces of a type expression -/

variable {t : TypeExpr} {ts : List TypeExpr} {ms : List (Member TypeExpr)}

theorem filled_keyLexemes (keys : List Text) : Filled (keyLexemes keys) := by
  refine .of_not_mem ?_ ?_ <;> simp [keyLexemes]

theorem filled_name {root : Text} (hroot : IsIdentifier root) (keys : List Text) :
    Filled (lexemes (TypeExpr.name root keys).text) := by
  have hplain : ∀ c ∈ root, IsPlain c := fun c hc => (isBare_of_isNameChar (hroot.2.1 c hc)).isPlain
  have hnot : ∀ c, ¬isNameChar c → Lexeme.plain c ∉ root.map Lexeme.plain := by
    rintro c hc hmem
    obtain ⟨d, hd, hcd⟩ := List.mem_map.1 hmem
    cases hcd
    exact hc (hroot.2.1 c hd)
  rw [TypeExpr.text, lexemes_indexed hplain]
  exact (Filled.of_not_mem (hnot _ (by decide)) (hnot _ (by decide))).append
    (filled_keyLexemes keys)

/-- The operands of a union or an intersection, each between its parentheses. -/
theorem filled_operands {op : Char} (hop : IsPlain op) (hparen : op ≠ '(' ∧ op ≠ ')')
    (hclosed : ∀ t ∈ ts, Closed t.text) (hfilled : ∀ t ∈ ts, Filled (lexemes t.text))
    (hne : ∀ t ∈ ts, lexemes t.text ≠ []) (hts : ts ≠ []) :
    Filled (.plain '(' :: lexemes (Text.join (between op) (ts.map TypeExpr.text) ++ [')'])) := by
  induction ts with
  | nil => exact absurd rfl hts
  | cons t ts ih =>
    have ht : Filled (.plain '(' :: (lexemes t.text ++ [.plain ')'])) :=
      (hfilled t (by simp)).parens (hne t (by simp))
    cases ts with
    | nil =>
      have hlex : lexemes (Text.join (between op) ([t].map TypeExpr.text) ++ [')']) =
          lexemes t.text ++ [')'].map .plain :=
        lexemes_append_plain (hclosed t (by simp)) (by decide)
      rw [hlex]
      exact ht
    | cons u us =>
      -- the separator ends one operand, has the operator between them and begins the next one
      have hmid : Filled [.plain ' ', .plain op, .plain ' '] :=
        .of_not_mem (by simp [hparen.1.symm]) (by simp [hparen.2.symm])
      have hus := ih (fun v hv => hclosed v (by simp [hv])) (fun v hv => hfilled v (by simp [hv]))
        (fun v hv => hne v (by simp [hv])) (by simp)
      rw [List.map_cons, List.map_cons, lexemes_operands hop (hclosed t (by simp)), ← List.map_cons]
      have hall := (ht.append hmid).append hus
      simpa [between] using hall

theorem filled_wrapped {op : Char} (hop : IsPlain op) (hparen : op ≠ '(' ∧ op ≠ ')')
    (hclosed : ∀ t ∈ ts, Closed t.text) (hfilled : ∀ t ∈ ts, Filled (lexemes t.text))
    (hne : ∀ t ∈ ts, lexemes t.text ≠ []) (hts : ts ≠ []) :
    Filled (lexemes (Written.wrapped op (ts.map TypeExpr.text))) := by
  have hall := filled_operands hop hparen hclosed hfilled hne hts
  match ts with
  | [] => exact absurd rfl hts
  | [t] => exact hfilled t (by simp)
  | t :: u :: us =>
    rw [← lexemes_cons_of_plain (by decide)] at hall
    exact hall

theorem filled_membersText (hcomment : ∀ m ∈ ms, IsComment m.comment)
    (hcode : ∀ m ∈ ms, Code m.type.text) (hfilled : ∀ m ∈ ms, Filled (lexemes m.type.text)) :
    Filled (lexemes (TypeExpr.membersText ms)) := by
  induction ms with
  | nil => exact .of_not_mem (by simp [TypeExpr.membersText]) (by simp [TypeExpr.membersText])
  | cons m ms ih =>
    have hms := ih (fun k hk => hcomment k (by simp [hk])) (fun k hk => hcode k (by simp [hk]))
      fun k hk => hfilled k (by simp [hk])
    have hm : Filled (lexemes m.comment) := by
      rcases hcomment m (by simp) with h | ⟨description, h⟩
      · rw [h, lexemes_nil]
        exact .of_not_mem (by simp) (by simp)
      · have hdoc := lexemes_docComment_append description []
        rw [List.append_nil, lexemes_nil] at hdoc
        rw [h, hdoc]
        exact .of_not_mem (by simp) (by simp)
    have hname : Filled (.token (quoteKey m.name) :: (markLexemes m.optional ++
        [':', ' '].map .plain)) := by
      cases m.optional <;> exact .of_not_mem (by simp [markLexemes]) (by simp [markLexemes])
    have hend : Filled ([';', '\n'].map .plain) := .of_not_mem (by decide) (by decide)
    rw [lexemes_membersText_cons (hcomment m (by simp)) (hcode m (by simp))]
    have hall := (hm.append hname).append ((hfilled m (by simp)).append (hend.append hms))
    simpa using hall

/-! ### All type expressions of schemas -/

theorem TypeExpr.Formed.lexemes_ne_nil (h : Formed IsIdentifier False t) :
    lexemes t.text ≠ [] := by
  intro hnil
  -- a reader that may not descend reads nothing
  have hread := h.reads 0 [] (by rw [hnil]; exact Nat.le_refl 0) (by simp [Follows])
  rw [hnil, List.append_nil, readType] at hread
  simp at hread

/-- **No operand of a formed expression is empty.** -/
theorem TypeExpr.Formed.filled (h : Formed IsIdentifier False t) : Filled (lexemes t.text) := by
  have hclosed : ∀ u : TypeExpr, Formed IsIdentifier False u → Code u.text :=
    fun u hu => hu.code fun r hr => hr.code
  induction h with
  | nothing hvoid => exact hvoid.elim
  | name keys hr => exact filled_name hr keys
  | literal value =>
    rw [text, quoteLiteral, lexemes_quote (.inr rfl)]
    exact .of_not_mem (by simp) (by simp)
  | union hlen hne hts ih =>
    rw [text, texts_eq_map]
    exact filled_wrapped (by decide) (by decide) (fun t ht => (hclosed t (hts t ht)).closed) ih
      (fun t ht => (hts t ht).lexemes_ne_nil) hne
  | intersection hlen hne hts ih =>
    rw [text, texts_eq_map]
    exact filled_wrapped (by decide) (by decide) (fun t ht => (hclosed t (hts t ht)).closed) ih
      (fun t ht => (hts t ht).lexemes_ne_nil) hne
  | array ht ih =>
    have hend : Filled ([Lexeme.plain '[', .plain ']']) := .of_not_mem (by decide) (by decide)
    have hall := (ih.parens ht.lexemes_ne_nil).append hend
    rw [text, lexemes_array (hclosed _ ht).closed]
    simpa using hall
  | partially ht ih =>
    rw [text, lexemes_partially (hclosed _ ht).closed]
    exact ((Filled.of_not_mem (by decide) (by decide)).append ih).append
      (.of_not_mem (by decide) (by decide))
  | nullable ht ih =>
    have hend : Filled ([' ', '|', ' ', 'n', 'u', 'l', 'l'].map .plain) :=
      .of_not_mem (by decide) (by decide)
    have hall := (ih.parens ht.lexemes_ne_nil).append hend
    rw [text, lexemes_nullable (hclosed _ ht).closed]
    simpa using hall
  | openObject =>
    have hlex : lexemes (TypeExpr.openObject).text = Written.openObject.map .plain :=
      lexemes_of_plain (by decide)
    rw [hlex]
    exact .of_not_mem (by decide) (by decide)
  | @block ms index hcomment hms hindex ihms ihindex =>
    have hmsCode : ∀ m ∈ ms, Code m.type.text := fun m hm => hclosed _ (hms m hm)
    have hmsFilled := filled_membersText hcomment hmsCode ihms
    have hbody : Closed (membersText ms) := (code_membersText hcomment hmsCode).closed
    have hhead : Filled [.plain '{', .plain ' '] := .of_not_mem (by decide) (by decide)
    cases index with
    | none =>
      have hend : Filled ([' ', '}'].map .plain) := .of_not_mem (by decide) (by decide)
      rw [lexemes_block_none hbody]
      exact hhead.append (hmsFilled.append hend)
    | some t =>
      have hend : Filled ([';', '\n', ' ', '}'].map .plain) := .of_not_mem (by decide) (by decide)
      have hkey : Filled (Written.indexHead.map .plain) := .of_not_mem (by decide) (by decide)
      rw [lexemes_block_some hbody (hclosed _ (hindex t rfl)).closed]
      exact hhead.append (hmsFilled.append (hkey.append ((ihindex t rfl).append hend)))

theorem TypeExpr.Formed.not_hasEmptyOperand (h : Formed IsIdentifier False t) :
    ¬HasEmptyOperand t.text :=
  h.filled.pair

/-! ### Parts -/

/-- **Some code stands somewhere in other code**, behind what is closed, so that it is cut
there as it is by itself. -/
def IsPart (part whole : Text) : Prop :=
  ∃ front rest, Closed front ∧ whole = front ++ (part ++ rest)

theorem IsPart.refl (code : Text) : IsPart code code := ⟨[], [], closed_nil, by simp⟩

theorem IsPart.trans {part mid whole : Text} (h : IsPart part mid) (hwhole : IsPart mid whole) :
    IsPart part whole := by
  obtain ⟨front, rest, hfront, rfl⟩ := h
  obtain ⟨front', rest', hfront', rfl⟩ := hwhole
  exact ⟨front' ++ front, rest ++ rest', hfront'.append hfront, by simp⟩

/-- **An empty operand of a part is one of the whole.** -/
theorem HasEmptyOperand.of_part {part whole : Text} (h : HasEmptyOperand part)
    (hclosed : Closed part) (hpart : IsPart part whole) : HasEmptyOperand whole := by
  obtain ⟨front, rest, hfront, rfl⟩ := hpart
  rw [HasEmptyOperand, hfront, hclosed]
  exact Text.HasPair.mono h ⟨lexemes front, lexemes rest, List.append_assoc _ _ _⟩

section Parts

variable {code : Text} {codes : List Text}

theorem isPart_array (code : Text) : IsPart code (Written.array code) :=
  ⟨['('], _, closed_of_plain (by decide), rfl⟩

theorem isPart_nullable (code : Text) : IsPart code (Written.nullable code) :=
  ⟨['('], _, closed_of_plain (by decide), rfl⟩

theorem isPart_partially (code : Text) : IsPart code (Written.partially code) :=
  ⟨['P', 'a', 'r', 't', 'i', 'a', 'l', '<'], ['>'], closed_of_plain (by decide),
    List.append_assoc _ _ _⟩

theorem isPart_index (code : Text) : IsPart code (Written.index code) :=
  ⟨Written.indexHead, [';', '\n'], closed_of_plain (by decide), List.append_assoc _ _ _⟩

theorem isPart_object (code : Text) : IsPart code (Written.object code) :=
  ⟨['{', ' '], _, closed_of_plain (by decide), rfl⟩

theorem isPart_join {sep : Text} (hsep : Closed sep) (hclosed : ∀ t ∈ codes, Closed t)
    (h : code ∈ codes) : IsPart code (Text.join sep codes) := by
  fun_induction Text.join sep codes with
  | case1 => simp at h
  | case2 t =>
    rw [List.mem_singleton.1 h]
    exact .refl t
  | case3 t u us ih =>
    rcases List.mem_cons.1 h with rfl | h
    · exact ⟨[], _, closed_nil, List.append_assoc _ _ _⟩
    · refine (ih (fun v hv => hclosed v (by simp [hv])) h).trans ⟨t ++ sep, [], ?_, by simp⟩
      exact (hclosed t (by simp)).append hsep

theorem isPart_wrapped {op : Char} (hop : IsPlain op) (hclosed : ∀ t ∈ codes, Closed t)
    (h : code ∈ codes) : IsPart code (Written.wrapped op codes) := by
  have hjoin : IsPart code ('(' :: (Text.join (between op) codes ++ [')'])) :=
    (isPart_join (closed_of_plain (isPlain_between hop)) hclosed h).trans
      ⟨['('], [')'], closed_of_plain (by decide), rfl⟩
  match codes with
  | [t] =>
    rw [List.mem_singleton.1 h]
    exact .refl t
  | [] => simp at h
  | _ :: _ :: _ => exact hjoin

theorem isPart_property (name : Text) (optional : Bool) (code : Text) :
    IsPart code (Written.property name optional code) := by
  refine ⟨quoteKey name ++ (if optional then ['?'] else []) ++ [':', ' '], [';', '\n'], ?_, ?_⟩
  · refine ((closed_quote (.inl rfl) name).append ?_).append (closed_of_plain (by decide))
    cases optional
    · exact closed_nil
    · exact closed_of_plain (by decide)
  · simp [Written.property]

/-- The type of a member is a part of the members. -/
theorem isPart_membersText (hcomment : ∀ m ∈ ms, IsComment m.comment)
    (hcode : ∀ m ∈ ms, Code m.type.text) {m : Member TypeExpr} (hm : m ∈ ms) :
    IsPart m.type.text (TypeExpr.membersText ms) := by
  induction ms with
  | nil => simp at hm
  | cons k ms ih =>
    rw [TypeExpr.membersText]
    rcases List.mem_cons.1 hm with rfl | hm
    · exact (isPart_property m.name m.optional m.type.text).trans
        ⟨m.comment, _, (hcomment m (by simp)).code.closed, List.append_assoc _ _ _⟩
    · have hfront : Code (k.comment ++ Written.property k.name k.optional k.type.text) :=
        (hcomment k (by simp)).code.append (.property _ _ (hcode k (by simp)))
      have hpart := ih (fun n hn => hcomment n (by simp [hn]))
        (fun n hn => hcode n (by simp [hn])) hm
      exact hpart.trans ⟨_, [], hfront.closed, by rw [List.append_nil]⟩

end Parts

end ApiTypes.TypeScript
