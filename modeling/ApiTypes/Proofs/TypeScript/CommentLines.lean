import ApiTypes.Proofs.Code.Lexeme
import ApiTypes.Proofs.Text.Trimming
import Mathlib.Data.List.Forall2

/-!
# The lines of comment blocks

A comment block is read in two ways. A scanner ends it at its first end mark, so there must be no
end mark in it but the last one. A reader sees one marked line after the other, and these should be
the lines of the description (`ApiTypes.TypeScript.DescriptionLines`): the white space around it is
gone and so is that behind each line, and end marks are broken.

Both are so of every description (`ApiTypes.TypeScript.docComment_closed`). An end mark could come
about where two pieces meet: at the mark of a line, at a line whose end was trimmed, or in front of
the closing mark. No line has one in it, every line is between a space and a line feed, and neither
of these is part of an end mark.
-/

namespace ApiTypes

namespace Text

/-! ### Lines -/

/-- The pieces of a split text do not have the separator in them. -/
theorem not_mem_of_mem_split {sep : Char} {t u : Text} (h : u ∈ split sep t) : sep ∉ u := by
  induction t generalizing u with
  | nil =>
    obtain rfl : u = [] := by simpa [split] using h
    exact List.not_mem_nil
  | cons c t ih =>
    rw [split] at h
    split at h
    · rcases List.mem_cons.1 h with rfl | h
      · exact List.not_mem_nil
      · exact ih h
    · next hc =>
      obtain ⟨v, vs, hv⟩ := List.exists_cons_of_ne_nil (split_ne_nil sep t)
      rw [hv, consHead] at h
      rw [hv] at ih
      rcases List.mem_cons.1 h with rfl | h
      · exact List.not_mem_cons_of_ne_of_not_mem (Ne.symm hc) (ih List.mem_cons_self)
      · exact ih (List.mem_cons_of_mem _ h)

theorem join_append (sep : Text) {ts us : List Text} (hts : ts ≠ []) (hus : us ≠ []) :
    join sep (ts ++ us) = join sep ts ++ sep ++ join sep us := by
  induction ts with
  | nil => exact absurd rfl hts
  | cons t ts ih =>
    cases ts with
    | nil =>
      obtain ⟨u, us, rfl⟩ := List.exists_cons_of_ne_nil hus
      rfl
    | cons t' ts =>
      have hrest := ih (List.cons_ne_nil t' ts)
      rw [List.cons_append] at hrest
      rw [List.cons_append, List.cons_append, join, hrest, join]
      simp only [List.append_assoc]

/-- A mark in front of every text is one in front of the first and one behind every separator. -/
theorem join_map_append (sep mark : Text) {ts : List Text} (h : ts ≠ []) :
    join sep (ts.map (mark ++ ·)) = mark ++ join (sep ++ mark) ts := by
  induction ts with
  | nil => exact absurd rfl h
  | cons t ts ih =>
    cases ts with
    | nil => rfl
    | cons u ts =>
      have hrest := ih (List.cons_ne_nil u ts)
      rw [List.map_cons] at hrest
      rw [List.map_cons, List.map_cons, join, hrest, join]
      simp only [List.append_assoc]

/-! ### Pairs -/

/-- **Where a pair can be**: if the text in front of a pair does not have it and the text behind it
does not, the pair is not found anywhere else. -/
theorem eq_of_append_pair {a b : Char} (hab : a ≠ b) {x y front behind : Text}
    (hx : ¬HasPair a b x) (hy : ¬HasPair a b (b :: y))
    (h : front ++ a :: b :: behind = x ++ a :: b :: y) : front = x ∧ behind = y := by
  induction x generalizing front with
  | nil =>
    cases front with
    | nil =>
      obtain ⟨-, -, rfl⟩ : a = a ∧ b = b ∧ behind = y := by simpa using h
      exact ⟨rfl, rfl⟩
    | cons c front =>
      obtain ⟨-, hrest⟩ : c = a ∧ front ++ a :: b :: behind = b :: y := by simpa using h
      exact absurd ⟨front, behind, by simpa using hrest⟩ hy
  | cons d x ih =>
    rw [hasPair_cons, not_or] at hx
    cases front with
    | nil =>
      -- the pair would begin with the first character and end with the next one
      obtain ⟨hd, hrest⟩ : a = d ∧ b :: behind = x ++ a :: b :: y := by simpa using h
      cases x with
      | nil => exact absurd (List.cons.inj hrest).1.symm hab
      | cons e x => exact absurd ⟨hd.symm, congrArg some (List.cons.inj hrest).1.symm⟩ hx.1
    | cons c front =>
      obtain ⟨rfl, hrest⟩ : c = d ∧ front ++ a :: b :: behind = x ++ a :: b :: y := by
        simpa using h
      exact (ih hx.2 hrest).imp_left (congrArg (c :: ·))

end Text

namespace TypeScript

/-- What stands in front of every line of a comment block. -/
def lineMark : Text := [' ', ' ', '*', ' ']

/-- **The lines of a description** as they should be in a comment block: the description without
the white space around it and with its end marks broken, line by line without the white space
behind it. -/
def DescriptionLines (description : Text) (lines : List Text) : Prop :=
  ∃ body broken, Text.Trimmed description body ∧
    Text.Replaced '*' '/' ['*', '\\', '/'] body broken ∧
    List.Forall₂ Text.TrimmedEnd (Text.split '\n' broken) lines

/-- There is one way for them to be. -/
theorem descriptionLines_iff {description : Text} {lines : List Text} :
    DescriptionLines description lines ↔ docLines description = lines := by
  have hlines : ∀ t : Text, List.Forall₂ Text.TrimmedEnd (Text.split '\n' t) lines ↔
      (Text.split '\n' t).map Text.trimEnd = lines := by
    intro t
    rw [← List.forall₂_eq_eq_eq, List.forall₂_map_left_iff]
    exact ⟨List.Forall₂.imp fun _ _ => Text.trimmedEnd_iff.1,
      List.Forall₂.imp fun _ _ => Text.trimmedEnd_iff.2⟩
  constructor
  · rintro ⟨body, broken, hbody, hbroken, h⟩
    rw [docLines, docText, Text.trimmed_iff.1 hbody, Text.replaced_iff.1 hbroken, (hlines _).1 h]
  · intro h
    exact ⟨_, docText description, Text.trimmed_iff.2 rfl, Text.replaced_iff.2 rfl, (hlines _).2 h⟩

theorem docLines_ne_nil (description : Text) : docLines description ≠ [] := by
  simp [docLines, Text.split_ne_nil]

/-- A comment block, line by line. -/
theorem docComment_eq_join (description : Text) :
    docComment description = Text.join ['\n'] (['/', '*', '*'] ::
      ((docLines description).map (lineMark ++ ·) ++ [[' ', ' ', '*', '/'], []])) := by
  have hne : (docLines description).map (lineMark ++ ·) ≠ [] := by
    simpa using docLines_ne_nil description
  rw [← List.singleton_append (l := _ ++ _), Text.join_append _ (by simp) (by simp),
    Text.join_append _ hne (by simp), Text.join_map_append _ _ (docLines_ne_nil description)]
  simp [docComment, docMark, lineMark, Text.join]

/-- **The lines of a comment block**: the opening mark, the marked lines of the description, and
the closing mark, which is followed by nothing. -/
theorem split_docComment (description : Text) :
    Text.split '\n' (docComment description) = ['/', '*', '*'] ::
      ((docLines description).map (lineMark ++ ·) ++ [[' ', ' ', '*', '/'], []]) := by
  rw [docComment_eq_join, Text.split_join (by simp)]
  intro line hline
  simp only [List.mem_cons, List.mem_append, List.mem_map, List.not_mem_nil, or_false] at hline
  rcases hline with rfl | ⟨u, hu, rfl⟩ | rfl | rfl
  · decide
  · obtain ⟨piece, hpiece, rfl⟩ := List.mem_map.1 hu
    have hnot := Text.not_mem_of_mem_split hpiece
    exact List.not_mem_append (by decide) fun h => hnot ((Text.trimEnd_prefix piece).subset h)
  · decide
  · decide

/-- **A comment block is closed by its last mark only, and keeps the lines of its description.** -/
theorem docComment_closed (description : Text) :
    ['/', '*', '*'] <+: docComment description ∧
      ['*', '/', '\n'] <:+ docComment description ∧
      (∀ front behind, docComment description = front ++ '*' :: '/' :: behind →
        behind = ['\n']) ∧
      ∃ lines, (∀ ls, DescriptionLines description ls ↔ lines = ls) ∧
        Text.split '\n' (docComment description) =
          ['/', '*', '*'] :: (lines.map (lineMark ++ ·) ++ [[' ', ' ', '*', '/'], []]) := by
  have hblock : docComment description =
      '/' :: '*' :: Output.docBody description ++ '*' :: '/' :: ['\n'] := by
    rw [Output.docComment_eq, Output.docBlock]
    simp
  refine ⟨⟨_, by rw [docComment, List.append_assoc, List.append_assoc]⟩,
    ⟨'/' :: '*' :: Output.docBody description, by rw [hblock]⟩, fun front behind h => ?_,
    docLines description, fun ls => descriptionLines_iff, split_docComment description⟩
  have hopen : ¬Text.HasPair '*' '/' ('/' :: '*' :: Output.docBody description) := by
    rw [Text.hasPair_cons, Text.hasPair_cons, not_or, not_or]
    exact ⟨by simp, by simp [Output.docBody], Output.not_hasPair_docBody description⟩
  exact (Text.eq_of_append_pair (by decide) hopen (by decide) (h.symm.trans hblock)).2

/-- An end mark at the end of a line, and one that a broken mark could make with what follows. -/
example : docComment " **//\n x */ \t".toList =
    "/**\n  * **\\//\n  *  x *\\/\n  */\n".toList := by
  decide +kernel

end TypeScript

end ApiTypes
