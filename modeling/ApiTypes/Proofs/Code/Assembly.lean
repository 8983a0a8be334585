import ApiTypes.Proofs.Code.Lexeme
import ApiTypes.TypeScript.Written

/-!
# Code put together from closed pieces

Generated code is made of comments, literals, braces that come in pairs, and characters
that mean nothing to the check. `ApiTypes.Output.Code` is the class of texts that can be
put together from these, and two things hold of all of them:

* they are closed (`ApiTypes.Output.Code.closed`), so that nothing inside of them changes
  how what follows is read;
* outside of comments and literals they open as many braces as they close
  (`ApiTypes.Output.Code.level_eq_zero`).

The written forms of types lead from such code to such code again.
-/

namespace ApiTypes.Output

open TypeScript

/-- A character that is no brace and with which no comment and no literal can begin. -/
def IsBare (c : Char) : Prop := c ∉ ['{', '}', '"', '\'', '/']

instance : DecidablePred IsBare := fun c =>
  inferInstanceAs (Decidable (c ∉ ['{', '}', '"', '\'', '/']))

theorem IsBare.isPlain {c : Char} (h : IsBare c) : IsPlain c := by
  simp only [IsBare, List.mem_cons, List.not_mem_nil, not_or] at h
  exact ⟨h.2.2.2.2.1, h.2.2.1, h.2.2.2.1⟩

/-- **Code put together from closed pieces**, with its braces in pairs. -/
inductive Code : Text → Prop
  /-- No code at all. -/
  | nil : Code []
  /-- A character without meaning to the check. -/
  | bare {c : Char} : IsBare c → Code [c]
  /-- A literal. -/
  | literal {q : Char} (t : Text) : q = '"' ∨ q = '\'' → Code (quote q t)
  /-- A comment. -/
  | comment {t : Text} : ¬Text.HasPair '*' '/' t → Code ('/' :: '*' :: (t ++ ['*', '/']))
  /-- One piece of code behind another one. -/
  | append {t u : Text} : Code t → Code u → Code (t ++ u)
  /-- A piece of code between braces. -/
  | braces {t : Text} : Code t → Code ('{' :: (t ++ ['}']))

namespace Code

theorem cons {c : Char} {t : Text} (hc : IsBare c) (h : Code t) : Code (c :: t) :=
  (bare hc).append h

theorem of_bare {t : Text} (h : ∀ c ∈ t, IsBare c) : Code t := by
  induction t with
  | nil => exact nil
  | cons c t ih => exact cons (h c (by simp)) (ih fun d hd => h d (by simp [hd]))

/-! ### What holds of all code -/

/-- **Nothing in such code reaches beyond its end.** -/
theorem closed {t : Text} (h : Code t) : Closed t := by
  induction h with
  | nil => exact closed_nil
  | bare hc => exact closed_of_plain (by simpa using hc.isPlain)
  | literal t hq => exact closed_quote hq t
  | comment ht => exact closed_comment ht
  | append _ _ iht ihu => exact iht.append ihu
  | @braces t _ ih =>
    have hopen : Closed ['{'] := closed_of_plain (by decide)
    have hclose : Closed ['}'] := closed_of_plain (by decide)
    exact hopen.append (ih.append hclose)

/-- The braces that some code opens outside of comments and literals, less those that it
closes. -/
def level (ls : List Lexeme) : ℤ :=
  (ls.filterMap Lexeme.char?).count '{' - (ls.filterMap Lexeme.char?).count '}'

theorem level_token (t : Text) : level [.token t] = 0 := rfl

theorem level_append (ls ms : List Lexeme) : level (ls ++ ms) = level ls + level ms := by
  simp only [level, List.filterMap_append, List.count_append]
  omega

/-- **Such code closes every brace that it opens.** -/
theorem level_eq_zero {t : Text} (h : Code t) : level (lexemes t) = 0 := by
  induction h with
  | nil => simp [level]
  | @bare c hc =>
    rw [lexemes_of_plain (by simpa using hc.isPlain)]
    simp only [IsBare, List.mem_cons, List.not_mem_nil, not_or] at hc
    simp [level, hc.1, hc.2.1]
  | literal t hq => rw [lexemes_quote hq, level_token]
  | comment ht => rw [lexemes_comment ht, level_token]
  | append ht _ iht ihu => rw [ht.closed, level_append, iht, ihu, Int.add_zero]
  | @braces t ht ih =>
    -- the opening brace raises the level by one, the closing one lowers it
    have hclose : lexemes ['}'] = [.plain '}'] := lexemes_of_plain (by decide)
    rw [lexemes_cons_of_plain (by decide), ht.closed, hclose, ← List.singleton_append,
      level_append, level_append, ih]
    decide

/-! ### The written forms -/

variable {t : Text} {ts : List Text}

theorem docComment (description : Text) : Code (docComment description) := by
  rw [docComment_eq]
  exact (comment (not_hasPair_docBody description)).append (of_bare (by decide))

theorem join {sep : Text} (hsep : Code sep) (h : ∀ t ∈ ts, Code t) : Code (Text.join sep ts) := by
  fun_induction Text.join sep ts with
  | case1 => exact nil
  | case2 t => exact h t (by simp)
  | case3 t u us ih =>
    exact ((h t (by simp)).append hsep).append (ih fun v hv => h v (List.mem_cons_of_mem _ hv))

theorem wrapped {op : Char} (hop : IsBare op) (h : ∀ t ∈ ts, Code t) :
    Code (Written.wrapped op ts) := by
  have hsep : Code [')', ' ', op, ' ', '('] := of_bare (by
    intro c hc
    simp only [List.mem_cons, List.not_mem_nil, or_false] at hc
    rcases hc with rfl | rfl | rfl | rfl | rfl
    all_goals first | exact hop | decide)
  have hall : Code ('(' :: (Text.join [')', ' ', op, ' ', '('] ts ++ [')'])) :=
    cons (by decide) ((join hsep h).append (of_bare (by decide)))
  -- a single piece stands without parentheses
  match ts with
  | [t] => exact h t (by simp)
  | [] => exact hall
  | _ :: _ :: _ => exact hall

theorem array (h : Code t) : Code (Written.array t) :=
  cons (by decide) (h.append (of_bare (by decide)))

theorem partially (h : Code t) : Code (Written.partially t) :=
  ((of_bare (by decide)).append h).append (of_bare (by decide))

theorem nullable (h : Code t) : Code (Written.nullable t) :=
  cons (by decide) (h.append (of_bare (by decide)))

theorem indexed {root : Text} (h : Code root) (keys : List Text) :
    Code (Written.indexed root keys) := by
  refine h.append ?_
  induction keys with
  | nil => exact nil
  | cons k keys ih =>
    rw [List.flatMap_cons]
    exact (cons (by decide) ((literal k (.inl rfl)).append (of_bare (by decide)))).append ih

theorem property (name : Text) (optional : Bool) (h : Code t) :
    Code (Written.property name optional t) := by
  have hmark : Code (if optional then ['?'] else []) := by
    cases optional
    · exact nil
    · exact of_bare (by decide)
  have htype : Code (':' :: ' ' :: (t ++ [';', '\n'])) :=
    cons (by decide) (cons (by decide) (h.append (of_bare (by decide))))
  rw [Written.property]
  exact ((literal name (.inl rfl)).append hmark).append htype

theorem index (h : Code t) : Code (Written.index t) :=
  ((of_bare (by decide)).append h).append (of_bare (by decide))

theorem object (h : Code t) : Code (Written.object t) := by
  have hbraces := braces (cons (c := ' ') (by decide) (h.append (of_bare (t := [' ']) (by decide))))
  simpa [Written.object] using hbraces

theorem openObject : Code Written.openObject := by
  have hbraces := braces (of_bare (t := ' ' :: (Written.indexHead ++ Written.any ++ [' ']))
    (by decide))
  simpa [Written.openObject] using hbraces

end Code

/-! ### The check -/

/-- The check accepts what declares an interface and has as many opening as closing braces
outside of comments and literals. -/
theorem check_eq_ok_iff (code : Text) :
    check code = .ok () ↔ marker <:+: code ∧ (strip code).count '{' = (strip code).count '}' := by
  rw [check, ← Text.contains_iff]
  cases hm : Text.contains marker code
  · simp
  · by_cases hb : (strip code).count '{' = (strip code).count '}'
    · simp [hb]
    · simp [hb]

/-- **Code with its braces in pairs passes the check**, once it declares an interface. -/
theorem Code.check {code : Text} (h : Code code) (hm : marker <:+: code) :
    check code = .ok () := by
  have hlevel := h.level_eq_zero
  rw [level, ← strip_eq_filterMap] at hlevel
  exact (check_eq_ok_iff code).2 ⟨hm, by omega⟩

end ApiTypes.Output
