import ApiTypes.Proofs.TypeScript.Pieces
import ApiTypes.Proofs.TypeScript.Reader

/-!
# What is printed is read back

The reader (`ApiTypes.TypeScript.TypeExpr.read`) inverts the printer on the type
expressions of schemas whose names begin with identifiers and whose unions and
intersections are not empty (`ApiTypes.TypeScript.TypeExpr.Formed.read_text`).

The proof goes by induction on the expression. What has to be shown for one of its parts
(`ApiTypes.TypeScript.Reads`) is that the reader takes it off the front of whatever
follows it, which must only begin with something that ends an operand: a type stands
between parentheses, between angle brackets, or before a semicolon. The single exception
is the open object, whose type ends before a space.
-/

namespace ApiTypes.TypeScript

open Output

/-! ### What the reader takes off the front -/

/-- What follows begins with one of the given characters, or with nothing. -/
def Follows (stops : Text) (ls : List Lexeme) : Prop := ∀ l ∈ ls.head?, ∃ c ∈ stops, l = .plain c

theorem follows_cons {stops : Text} {c : Char} (hc : c ∈ stops) (ls : List Lexeme) :
    Follows stops (.plain c :: ls) := by
  intro l hl
  exact ⟨c, hc, (Option.some.inj hl).symm⟩

theorem Follows.mono {stops stops' : Text} {ls : List Lexeme} (h : Follows stops ls)
    (hsub : stops ⊆ stops') : Follows stops' ls := by
  intro l hl
  obtain ⟨c, hc, rfl⟩ := h l hl
  exact ⟨c, hsub hc, rfl⟩

theorem expect_append (cs : Text) (ls : List Lexeme) :
    expect cs (cs.map .plain ++ ls) = some ls := by
  induction cs with
  | nil => rfl
  | cons c cs ih => rw [List.map_cons, List.cons_append, expect, if_pos rfl, ih]

/-- Nothing but the expected character is stepped over. -/
theorem expect_of_follows {stops : Text} {ls : List Lexeme} (h : Follows stops ls) {c : Char}
    (hc : c ∉ stops) (cs : Text) : expect (c :: cs) ls = none := by
  cases ls with
  | nil => rfl
  | cons l ls =>
    obtain ⟨d, hd, rfl⟩ := h l rfl
    rw [expect, if_neg]
    rintro rfl
    exact hc hd

theorem isBare_of_isNameChar {c : Char} (h : isNameChar c) : IsBare c := by
  have hspecial : ∀ d ∈ ['{', '}', '"', '\'', '/'], ¬isNameChar d := by decide
  exact fun hc => hspecial c hc h

theorem IsIdentifier.code {t : Text} (h : IsIdentifier t) : Code t :=
  .of_bare fun c hc => isBare_of_isNameChar (h.2.1 c hc)

/-- What may stand behind a name: nothing that could be a part of it. -/
def nameStops : Text := [')', '>', ';', ' ']

theorem readName_of_follows {stops : Text} {ls : List Lexeme} (h : Follows stops ls)
    (hstops : ∀ c ∈ stops, ¬isNameChar c) : readName ls = ([], ls) := by
  cases ls with
  | nil => rfl
  | cons l ls =>
    obtain ⟨c, hc, rfl⟩ := h l rfl
    rw [readName, if_neg (hstops c hc)]

theorem readName_append {t : Text} (ht : ∀ c ∈ t, isNameChar c) {ls : List Lexeme}
    (hls : readName ls = ([], ls)) : readName (t.map .plain ++ ls) = (t, ls) := by
  induction t with
  | nil => exact hls
  | cons c t ih =>
    rw [List.map_cons, List.cons_append, readName, if_pos (ht c (by simp)),
      ih fun d hd => ht d (by simp [hd])]

theorem readKeys_of_follows {ls : List Lexeme} (h : Follows nameStops ls) :
    readKeys ls = ([], ls) := by
  cases ls with
  | nil => rfl
  | cons l ls =>
    obtain ⟨c, hc, rfl⟩ := h l rfl
    rw [readKeys]
    intro k ls' hl
    cases hl
    exact absurd hc (by decide)

theorem readKeys_append (keys : List Text) {ls : List Lexeme} (h : Follows nameStops ls) :
    readKeys (keyLexemes keys ++ ls) = (keys, ls) := by
  induction keys with
  | nil => exact readKeys_of_follows h
  | cons k keys ih =>
    have hcons : keyLexemes (k :: keys) ++ ls =
        .plain '[' :: .token (quoteKey k) :: .plain ']' :: (keyLexemes keys ++ ls) := rfl
    rw [hcons, readKeys, ih, quoteKey, unquote_quote]

/-- A comment is taken off the front of the name of a member. -/
theorem readComment_append {comment : Text} (h : IsComment comment) (name : Text)
    (ls : List Lexeme) :
    readComment (lexemes comment ++ .token (quoteKey name) :: ls) =
      (comment, .token (quoteKey name) :: ls) := by
  rcases h with rfl | ⟨description, rfl⟩
  · rw [lexemes_nil, List.nil_append, readComment]
    intro t ls' hl
    simp [quoteKey, quote] at hl
  · have hdoc : lexemes (docComment description) =
        [.token (docBlock description), .plain '\n'] := by
      simpa using lexemes_docComment_append description []
    rw [hdoc, docBlock]
    simp only [List.cons_append, List.nil_append, readComment, docComment_eq, docBlock]

/-! ### Types -/

theorem readName_keyLexemes (keys : List Text) {ls : List Lexeme} (h : Follows nameStops ls) :
    readName (keyLexemes keys ++ ls) = ([], keyLexemes keys ++ ls) := by
  cases keys with
  | nil => exact readName_of_follows h (by decide)
  | cons k keys =>
    exact readName_of_follows (follows_cons (by decide : '[' ∈ ['[']) _) (by decide)

theorem expect_keyLexemes (keys : List Text) {ls : List Lexeme} (h : Follows nameStops ls) :
    expect ['<'] (keyLexemes keys ++ ls) = none := by
  cases keys with
  | nil => exact expect_of_follows h (by decide) []
  | cons k keys => rfl

/-- What begins with a name is read as a name or as a partial type. -/
theorem readType_of_readName {ls ls' : List Lexeme} {root : Text}
    (hname : readName ls = (root, ls')) (hne : root ≠ []) (n : Nat) :
    readType (n + 1) ls =
      match expect ['<'] ls' with
      | some ls' =>
        if root = partialName then do
          let (t, ls') ← readType n ls'
          let ls' ← expect ['>'] ls'
          some (.partially t, ls')
        else none
      | none => some (.name root (readKeys ls').1, (readKeys ls').2) := by
  have hnil : ∀ ms, readName ls ≠ ([], ms) := by
    intro ms h
    rw [hname] at h
    exact hne (congrArg Prod.fst h)
  -- no other case of the reader begins with a character of a name
  rw [readType, hname]
  · cases root with
    | nil => exact absurd rfl hne
    | cons c root => rfl
  · rintro ls rfl
    exact hnil _ rfl
  · rintro ls rfl
    exact hnil _ rfl
  · rintro l ls rfl
    exact hnil _ rfl

/-- A name is taken off the front of what may follow it. -/
theorem readType_name {root : Text} (hroot : IsIdentifier root) (keys : List Text) (n : Nat)
    {ls : List Lexeme} (h : Follows nameStops ls) :
    readType (n + 1) (root.map .plain ++ (keyLexemes keys ++ ls)) = some (.name root keys, ls) := by
  rw [readType_of_readName (readName_append hroot.2.1 (readName_keyLexemes keys h)) hroot.1,
    expect_keyLexemes keys h]
  simp only [readKeys_append keys h]

/-- What may stand behind an operand: the end of its parentheses, of its angle brackets or
of its signature. -/
def typeStops : Text := [')', '>', ';']

/-- **The reader takes an expression off the front** of whatever may follow it, when it may
descend as many levels as the expression has pieces. -/
def Reads (t : TypeExpr) : Prop :=
  ∀ n rest, (lexemes t.text).length ≤ n → Follows typeStops rest →
    readType n (lexemes t.text ++ rest) = some (t, rest)

variable {t : TypeExpr} {ts : List TypeExpr} {ms : List (Member TypeExpr)}

theorem reads_name {root : Text} (hroot : IsIdentifier root) (keys : List Text) :
    Reads (.name root keys) := by
  intro n rest hn hrest
  have hlex : lexemes (TypeExpr.name root keys).text = root.map .plain ++ keyLexemes keys :=
    lexemes_indexed (fun c hc => (isBare_of_isNameChar (hroot.2.1 c hc)).isPlain) keys
  have hne : root ≠ [] := hroot.1
  rw [hlex] at hn ⊢
  cases n with
  | zero => simp [hne] at hn
  | succ n =>
    rw [List.append_assoc]
    exact readType_name hroot keys n (hrest.mono (by decide))

theorem reads_literal (value : Text) : Reads (.literal value) := by
  intro n rest hn _
  have hlex : lexemes (TypeExpr.literal value).text = [.token (quoteLiteral value)] :=
    lexemes_quote (.inr rfl) value
  rw [hlex] at hn ⊢
  cases n with
  | zero => simp at hn
  | succ n =>
    rw [List.singleton_append, readType, quoteLiteral, unquote_quote]

theorem reads_array (hclosed : Closed t.text) (ht : Reads t) : Reads (.array t) := by
  intro n rest hn _
  have hlex : lexemes (TypeExpr.array t).text = _ := lexemes_array hclosed
  rw [hlex] at hn ⊢
  cases n with
  | zero => simp at hn
  | succ n =>
    have hread := ht n ([')', '[', ']'].map .plain ++ rest)
      (by simp at hn; omega) (follows_cons (by decide) _)
    rw [List.cons_append, List.append_assoc, readType]
    simp only [hread, Option.bind_eq_bind, Option.bind_some, expect_append]

theorem reads_nullable (hclosed : Closed t.text) (ht : Reads t) : Reads (.nullable t) := by
  intro n rest hn _
  have hlex : lexemes (TypeExpr.nullable t).text = _ := lexemes_nullable hclosed
  rw [hlex] at hn ⊢
  cases n with
  | zero => simp at hn
  | succ n =>
    have hread := ht n ([')', ' ', '|', ' ', 'n', 'u', 'l', 'l'].map .plain ++ rest)
      (by simp at hn; omega) (follows_cons (by decide) _)
    -- what follows the operand is not taken for the end of an array
    have harray : expect [')', '[', ']']
        ([')', ' ', '|', ' ', 'n', 'u', 'l', 'l'].map .plain ++ rest) = none := rfl
    rw [List.cons_append, List.append_assoc, readType]
    simp only [hread, Option.bind_eq_bind, Option.bind_some, expect_append, harray]

theorem reads_partially (hclosed : Closed t.text) (ht : Reads t) : Reads (.partially t) := by
  intro n rest hn _
  have hlex : lexemes (TypeExpr.partially t).text = _ := lexemes_partially hclosed
  rw [hlex] at hn ⊢
  cases n with
  | zero => simp at hn
  | succ n =>
    have hread := ht n (['>'].map .plain ++ rest) (by simp at hn; omega)
      (follows_cons (by decide) _)
    -- `Partial` is read as a name, and the bracket behind it says that it is none
    have hname : readName (partialName.map .plain ++ .plain '<' :: (lexemes t.text ++
        (['>'].map .plain ++ rest))) = (partialName, _) :=
      readName_append (by decide) (readName_of_follows (follows_cons (List.mem_singleton_self _) _)
        (by decide))
    have hopen : expect ['<'] (.plain '<' :: (lexemes t.text ++ (['>'].map .plain ++ rest))) =
        some (lexemes t.text ++ (['>'].map .plain ++ rest)) := expect_append ['<'] _
    rw [List.append_assoc, List.append_assoc]
    refine (readType_of_readName hname (by decide) n).trans ?_
    simp only [hopen, hread, Option.bind_eq_bind, Option.bind_some, if_true, expect_append]

/-! ### Members -/

/-- Where no comment and no name of a member stands, there are no more members. -/
theorem readMembers_plain (n : Nat) (c : Char) (ls : List Lexeme) :
    readMembers (n + 1) (.plain c :: ls) = some ([], .plain c :: ls) := by
  rw [readMembers, readComment]
  intro t ls' h
  simp at h

theorem readMark_append (optional : Bool) (ls : List Lexeme) :
    readMark (markLexemes optional ++ .plain ':' :: ls) = (optional, .plain ':' :: ls) := by
  cases optional
  · rw [markLexemes, if_neg (by decide), List.nil_append, readMark]
    intro ls' h
    simp at h
  · rfl

/-- **Members are taken off the front**, when each of their types is. -/
theorem readMembers_append (hcomment : ∀ m ∈ ms, IsComment m.comment)
    (hcode : ∀ m ∈ ms, Code m.type.text) (hreads : ∀ m ∈ ms, Reads m.type) (n : Nat)
    (hn : (lexemes (TypeExpr.membersText ms)).length < n) (c : Char) (ls : List Lexeme) :
    readMembers n (lexemes (TypeExpr.membersText ms) ++ .plain c :: ls) =
      some (ms, .plain c :: ls) := by
  induction ms generalizing n with
  | nil =>
    obtain ⟨n, rfl⟩ := Nat.exists_eq_succ_of_ne_zero (Nat.ne_zero_of_lt hn)
    rw [TypeExpr.membersText, lexemes_nil]
    exact readMembers_plain n c ls
  | cons m ms ih =>
    obtain ⟨n, rfl⟩ := Nat.exists_eq_succ_of_ne_zero (Nat.ne_zero_of_lt hn)
    rw [lexemes_membersText_cons (hcomment m (by simp)) (hcode m (by simp))] at hn ⊢
    simp only [List.length_append, List.length_cons] at hn
    have hrest := ih (fun k hk => hcomment k (by simp [hk])) (fun k hk => hcode k (by simp [hk]))
      (fun k hk => hreads k (by simp [hk])) n (by omega)
    have htype := hreads m (by simp) n
      (.plain ';' :: .plain '\n' :: (lexemes (TypeExpr.membersText ms) ++ .plain c :: ls))
      (by omega) (follows_cons (by decide) _)
    simp only [List.append_assoc, List.cons_append] at htype ⊢
    rw [readMembers, readComment_append (hcomment m (by simp))]
    simp only [readMark_append, expect, if_true, Option.bind_eq_bind, Option.bind_some, htype,
      hrest, quoteKey, unquote_quote]

/-- An index signature begins with no member. -/
theorem plain_indexHead_append (ls : List Lexeme) :
    Written.indexHead.map .plain ++ ls =
      .plain '[' :: (Written.indexHead.tail.map .plain ++ ls) := rfl

theorem reads_openObject : Reads .openObject := by
  intro n rest hn _
  have hlex : lexemes (TypeExpr.openObject).text = Written.openObject.map .plain :=
    lexemes_of_plain (by decide)
  rw [hlex] at hn ⊢
  obtain ⟨n, rfl⟩ : ∃ m, n = m + 2 := ⟨n - 2, by simp [Written.openObject] at hn; omega⟩
  have hany : readType (n + 1) (Written.any.map .plain ++ .plain ' ' :: .plain '}' :: rest) =
      some (.any, .plain ' ' :: .plain '}' :: rest) :=
    readType_name (by decide) [] n (follows_cons (by decide) _)
  -- there are no members, and the signature ends in a space instead of a semicolon
  have hmembers := readMembers_plain n '[' (Written.indexHead.tail.map .plain ++
    (Written.any.map .plain ++ .plain ' ' :: .plain '}' :: rest))
  have hhead := expect_append Written.indexHead
    (Written.any.map .plain ++ .plain ' ' :: .plain '}' :: rest)
  have hopen : Written.openObject.map Lexeme.plain ++ rest =
      .plain '{' :: .plain ' ' :: (Written.indexHead.map .plain ++
        (Written.any.map .plain ++ .plain ' ' :: .plain '}' :: rest)) := rfl
  rw [← plain_indexHead_append] at hmembers
  rw [hopen, readType]
  simp only [hmembers, Option.bind_eq_bind, Option.bind_some, hhead, hany, expect, if_true]

theorem reads_block {index : Option TypeExpr} (hcomment : ∀ m ∈ ms, IsComment m.comment)
    (hcode : ∀ m ∈ ms, Code m.type.text) (hreads : ∀ m ∈ ms, Reads m.type)
    (hindex : ∀ t ∈ index, Closed t.text) (hreadsIndex : ∀ t ∈ index, Reads t) :
    Reads (.block ms index) := by
  intro n rest hn _
  have hmsClosed : Closed (TypeExpr.membersText ms) :=
    (TypeExpr.code_membersText hcomment hcode).closed
  have hend : [' ', '}'].map Lexeme.plain ++ rest = .plain ' ' :: .plain '}' :: rest := rfl
  cases index with
  | none =>
    have hlex := lexemes_block_none hmsClosed
    rw [hlex] at hn ⊢
    obtain ⟨n, rfl⟩ : ∃ m, n = m + 1 := ⟨n - 1, by simp at hn; omega⟩
    have hmembers := readMembers_append hcomment hcode hreads n (by simp at hn; omega) ' '
      (.plain '}' :: rest)
    rw [List.cons_append, List.cons_append, List.append_assoc, hend, readType]
    have hhead : expect Written.indexHead (.plain ' ' :: .plain '}' :: rest) = none := rfl
    simp only [hmembers, Option.bind_eq_bind, Option.bind_some, hhead, expect, if_true]
  | some t =>
    have hlex := lexemes_block_some hmsClosed (hindex t rfl)
    rw [hlex] at hn ⊢
    obtain ⟨n, rfl⟩ : ∃ m, n = m + 1 := ⟨n - 1, by simp at hn; omega⟩
    have htype := hreadsIndex t rfl n ([';', '\n', ' ', '}'].map .plain ++ rest)
      (by simp at hn; omega) (follows_cons (by decide) _)
    have hhead := expect_append Written.indexHead
      (lexemes t.text ++ ([';', '\n', ' ', '}'].map .plain ++ rest))
    have hmembers := readMembers_append hcomment hcode hreads n (by simp at hn; omega) '['
      (Written.indexHead.tail.map .plain ++
        (lexemes t.text ++ ([';', '\n', ' ', '}'].map .plain ++ rest)))
    -- the semicolon tells this signature from that of the open object
    have hshort : expect [' ', '}'] ([';', '\n', ' ', '}'].map Lexeme.plain ++ rest) = none := rfl
    rw [← plain_indexHead_append] at hmembers
    rw [List.cons_append, List.cons_append, List.append_assoc, List.append_assoc,
      List.append_assoc, readType]
    simp only [hmembers, Option.bind_eq_bind, Option.bind_some, hhead, htype, hshort,
      expect_append]

/-! ### Operands -/

/-- **Operands are taken off the front**, when each of them is. -/
theorem readOperands_append {op : Char} (hop : IsPlain op) (hclosed : ∀ t ∈ ts, Closed t.text)
    (hreads : ∀ t ∈ ts, Reads t) (hne : ts ≠ []) (n : Nat)
    (hn : (lexemes (Text.join (between op) (ts.map TypeExpr.text) ++ [')'])).length ≤ n)
    {rest : List Lexeme} (hrest : Follows typeStops rest) :
    readOperands n op (lexemes (Text.join (between op) (ts.map TypeExpr.text) ++ [')']) ++ rest) =
      some (ts, rest) := by
  induction ts generalizing n with
  | nil => exact absurd rfl hne
  | cons t ts ih =>
    have htClosed := hclosed t (by simp)
    cases ts with
    | nil =>
      have hlex : lexemes (Text.join (between op) ([t].map TypeExpr.text) ++ [')']) =
          lexemes t.text ++ [')'].map .plain :=
        lexemes_append_plain htClosed (by decide)
      rw [hlex] at hn ⊢
      obtain ⟨n, rfl⟩ : ∃ m, n = m + 1 := ⟨n - 1, by simp at hn; omega⟩
      have htype := hreads t (by simp) n ([')'].map .plain ++ rest) (by simp at hn; omega)
        (follows_cons (by decide) _)
      -- no operator may stand behind the last operand
      have hlast : expect [' ', op, ' ', '('] rest = none := expect_of_follows hrest (by decide) _
      rw [List.append_assoc, readOperands]
      simp only [htype, Option.bind_eq_bind, Option.bind_some, expect_append, hlast]
    | cons u us =>
      rw [List.map_cons, List.map_cons, lexemes_operands hop htClosed, ← List.map_cons] at hn ⊢
      obtain ⟨n, rfl⟩ : ∃ m, n = m + 1 := ⟨n - 1, by simp at hn; omega⟩
      have hmore := ih (fun v hv => hclosed v (by simp [hv])) (fun v hv => hreads v (by simp [hv]))
        (by simp) n (by simp at hn ⊢; omega)
      have htype := hreads t (by simp) n ((between op).map .plain ++
        (lexemes (Text.join (between op) ((u :: us).map TypeExpr.text) ++ [')']) ++ rest))
        (by simp at hn; omega) (follows_cons (by decide) _)
      have hop := expect_append [' ', op, ' ', '(']
        (lexemes (Text.join (between op) ((u :: us).map TypeExpr.text) ++ [')']) ++ rest)
      have hclose := expect_append [')'] ([' ', op, ' ', '('].map .plain ++
        (lexemes (Text.join (between op) ((u :: us).map TypeExpr.text) ++ [')']) ++ rest))
      have hbetween : (between op).map Lexeme.plain =
        [')'].map .plain ++ [' ', op, ' ', '('].map .plain := rfl
      rw [List.append_assoc, List.append_assoc, readOperands]
      rw [hbetween, List.append_assoc] at htype ⊢
      simp only [htype, Option.bind_eq_bind, Option.bind_some, hclose, hop, hmore]

/-- Behind the opening parenthesis of a union or an intersection stands its first operand, and
behind that and the next opening parenthesis the others. -/
theorem read_wrapped {op : Char} (hop : IsPlain op) {u : TypeExpr} {us : List TypeExpr}
    (hclosed : ∀ v ∈ t :: u :: us, Closed v.text) (hreads : ∀ v ∈ t :: u :: us, Reads v) {n : Nat}
    (hn : (lexemes (Written.wrapped op ((t :: u :: us).map TypeExpr.text))).length ≤ n)
    {rest : List Lexeme} (hrest : Follows typeStops rest) :
    ∃ m ls, n = m + 1 ∧
      lexemes (Written.wrapped op ((t :: u :: us).map TypeExpr.text)) ++ rest =
        .plain '(' :: (lexemes t.text ++ ((between op).map .plain ++ ls)) ∧
      readType m (lexemes t.text ++ ((between op).map .plain ++ ls)) =
        some (t, (between op).map .plain ++ ls) ∧
      readOperands m op ls = some (u :: us, rest) := by
  have hlex : lexemes (Written.wrapped op ((t :: u :: us).map TypeExpr.text)) =
      .plain '(' :: (lexemes t.text ++ ((between op).map .plain ++
        lexemes (Text.join (between op) ((u :: us).map TypeExpr.text) ++ [')']))) :=
    lexemes_wrapped hop (hclosed t (by simp)) _
  rw [hlex] at hn
  refine ⟨n - 1, lexemes (Text.join (between op) ((u :: us).map TypeExpr.text) ++ [')']) ++ rest,
    ?_, ?_, ?_, ?_⟩
  · simp at hn
    omega
  · rw [hlex, List.cons_append, List.append_assoc, List.append_assoc]
  · exact hreads t (by simp) _ _ (by simp at hn; omega) (follows_cons (by decide) _)
  · exact readOperands_append hop (fun v hv => hclosed v (by simp [hv]))
      (fun v hv => hreads v (by simp [hv])) (by simp) _ (by simp at hn ⊢; omega) hrest

theorem reads_union (hclosed : ∀ t ∈ ts, Closed t.text) (hreads : ∀ t ∈ ts, Reads t)
    (hne : ts ≠ []) (hlen : ts.length ≠ 1) : Reads (.union ts) := by
  intro n rest hn hrest
  rw [TypeExpr.text, TypeExpr.texts_eq_map, Written.union] at hn ⊢
  obtain _ | ⟨t, _ | ⟨u, us⟩⟩ := ts
  · exact absurd rfl hne
  · exact absurd rfl hlen
  · obtain ⟨n, ls, rfl, hlex, htype, hmore⟩ := read_wrapped (by decide) hclosed hreads hn hrest
    have harray : expect [')', '[', ']'] ((between '|').map .plain ++ ls) = none := rfl
    have hnull : expect [')', ' ', '|', ' ', 'n', 'u', 'l', 'l']
        ((between '|').map .plain ++ ls) = none := rfl
    have hunion : expect [')', ' ', '|', ' ', '('] ((between '|').map .plain ++ ls) = some ls :=
      expect_append (between '|') ls
    rw [hlex, readType]
    simp only [htype, harray, hnull, hunion, hmore, Option.bind_eq_bind, Option.bind_some]

theorem reads_intersection (hclosed : ∀ t ∈ ts, Closed t.text) (hreads : ∀ t ∈ ts, Reads t)
    (hne : ts ≠ []) (hlen : ts.length ≠ 1) : Reads (.intersection ts) := by
  intro n rest hn hrest
  rw [TypeExpr.text, TypeExpr.texts_eq_map, Written.intersection] at hn ⊢
  obtain _ | ⟨t, _ | ⟨u, us⟩⟩ := ts
  · exact absurd rfl hne
  · exact absurd rfl hlen
  · obtain ⟨n, ls, rfl, hlex, htype, hmore⟩ := read_wrapped (by decide) hclosed hreads hn hrest
    have harray : expect [')', '[', ']'] ((between '&').map .plain ++ ls) = none := rfl
    have hnull : expect [')', ' ', '|', ' ', 'n', 'u', 'l', 'l']
        ((between '&').map .plain ++ ls) = none := rfl
    have hunion : expect [')', ' ', '|', ' ', '('] ((between '&').map .plain ++ ls) = none := rfl
    have hinter : expect [')', ' ', '&', ' ', '('] ((between '&').map .plain ++ ls) = some ls :=
      expect_append (between '&') ls
    rw [hlex, readType]
    simp only [htype, harray, hnull, hunion, hinter, hmore, Option.bind_eq_bind, Option.bind_some]

/-! ### All type expressions of schemas -/

/-- **A formed expression is read back**, whatever may follow it. -/
theorem TypeExpr.Formed.reads (h : Formed IsIdentifier False t) : Reads t := by
  have hclosed : ∀ u : TypeExpr, Formed IsIdentifier False u → Code u.text :=
    fun u hu => hu.code fun r hr => hr.code
  induction h with
  | nothing hvoid => exact hvoid.elim
  | name keys hr => exact reads_name hr keys
  | literal value => exact reads_literal value
  | union hlen hne hts ih =>
    exact reads_union (fun t ht => (hclosed t (hts t ht)).closed) ih hne hlen
  | intersection hlen hne hts ih =>
    exact reads_intersection (fun t ht => (hclosed t (hts t ht)).closed) ih hne hlen
  | array ht ih => exact reads_array (hclosed _ ht).closed ih
  | partially ht ih => exact reads_partially (hclosed _ ht).closed ih
  | nullable ht ih => exact reads_nullable (hclosed _ ht).closed ih
  | openObject => exact reads_openObject
  | block hcomment hms hindex ihms ihindex =>
    exact reads_block hcomment (fun m hm => hclosed _ (hms m hm)) ihms
      (fun t ht => (hclosed _ (hindex t ht)).closed) ihindex

/-- **What is printed is read back**: the reader inverts the printer on formed expressions
without empty operands. -/
theorem TypeExpr.Formed.read_text (h : Formed IsIdentifier False t) :
    TypeExpr.read t.text = some t := by
  have hread := h.reads (lexemes t.text).length [] (Nat.le_refl _) (by simp [Follows])
  rw [List.append_nil] at hread
  rw [TypeExpr.read, hread]

end ApiTypes.TypeScript
