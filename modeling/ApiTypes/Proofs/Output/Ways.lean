import ApiTypes.Proofs.Output.Saving

/-!
# Two ways of saving

The output is saved all or nothing or in place. From outside the two ways are told apart only if
one of them succeeds where the other fails, or if they leave other trees behind
(`ApiTypes.Output.SameOutcome`). They treat an output file that is there alike, as long as the mode
is one of the two. Otherwise they part in four places:

| what is odd | all or nothing | in place |
|---|---|---|
| a directory on the way is missing | it is made | nothing is written |
| the name or the path is nearly too long | its temporary file does not fit | it is written |
| the content has no encoding | no file changes | the file is left empty |
| the check refuses the content | no file changes | it is written |

A temporary file does not fit where the output file barely does, since it takes fourteen bytes more
(`ApiTypes.Output.temporaryFits_iff`).

For a content that passes the check these are all of them: the two ways have the same outcome if
and only if the output file is refused to both, or it has a place in which none of the first three
arises (`ApiTypes.Output.EitherWay`, `ApiTypes.Output.sameOutcome_iff`). Contents with a character
that takes the place of a surrogate (`ApiTypes.Text.ofCodePoint`) are left out: they count as
contents without an encoding.
-/

namespace ApiTypes

/-! ### The directory that a name leads into -/

namespace PathName

open FileTree (nameSize)

theorem nameSize_append (t u : Text) : nameSize (t ++ u) = nameSize t + nameSize u := by
  rw [nameSize, nameSize, nameSize, Text.encodeUtf8, List.flatMap_append, List.length_append]
  rfl

theorem nameSize_join_dropLast (sep : Text) (ts : List Text) :
    nameSize (Text.join sep ts.dropLast) ≤ nameSize (Text.join sep ts) := by
  fun_induction Text.join sep ts with
  | case1
  | case2 => exact Nat.zero_le _
  | case3 t u ts ih =>
    cases ts with
    | nil =>
      simp only [List.dropLast_cons_cons, List.dropLast_singleton, Text.join, nameSize_append]
      omega
    | cons v ts =>
      simp only [List.dropLast_cons_cons, Text.join, nameSize_append] at ih ⊢
      omega

/-- What is behind the same texts adds its own size. -/
theorem exists_nameSize_join (sep : Text) (ts : List Text) :
    ∃ k, ∀ t, nameSize (Text.join sep (ts ++ [t])) = k + nameSize t := by
  induction ts with
  | nil => exact ⟨0, fun t => (Nat.zero_add _).symm⟩
  | cons u ts ih =>
    obtain ⟨k, hk⟩ := ih
    refine ⟨nameSize u + nameSize sep + k, fun t => ?_⟩
    have hjoin : Text.join sep (u :: (ts ++ [t])) = u ++ sep ++ Text.join sep (ts ++ [t]) := by
      cases ts <;> rfl
    rw [List.cons_append, hjoin, nameSize_append, nameSize_append, hk]
    omega

/-- The steps of a name stand behind what shows where it starts. -/
theorem exists_front (origin : Origin) :
    ∃ front, (∀ steps, steps ≠ [] → text ⟨origin, steps⟩ = front ++ Text.join ['/'] steps) ∧
      (text ⟨origin, []⟩ = ['.'] ∨ nameSize (text ⟨origin, []⟩) ≤ nameSize front) := by
  cases origin with
  | here => exact ⟨[], fun steps hne => if_neg hne, .inl rfl⟩
  | working directory =>
    refine ⟨directory ++ ['/'], fun steps hne => (if_neg hne).trans (by simp), .inr ?_⟩
    rw [nameSize_append]
    exact Nat.le_add_right _ _
  | root => exact ⟨['/'], fun _ _ => rfl, .inr (Nat.le_refl _)⟩
  | otherRoot => exact ⟨['/', '/'], fun _ _ => rfl, .inr (Nat.le_refl _)⟩

/-- The last step of a name adds its own size. -/
theorem exists_nameSize_text (origin : Origin) (steps : List Text) :
    ∃ k, ∀ t, nameSize (text ⟨origin, steps ++ [t]⟩) = k + nameSize t := by
  obtain ⟨front, hfront, -⟩ := exists_front origin
  obtain ⟨k, hk⟩ := exists_nameSize_join ['/'] steps
  refine ⟨nameSize front + k, fun t => ?_⟩
  rw [hfront _ (by simp), nameSize_append, hk]
  omega

/-- The directory that a name is in has no longer a text than the name, but for the dot that stands
for the working directory. -/
theorem nameSize_text_parent (name : PathName) :
    nameSize name.parent.text ≤ max 1 (nameSize name.text) := by
  obtain ⟨origin, steps⟩ := name
  change nameSize (text ⟨origin, steps.dropLast⟩) ≤ _
  have hjoin := nameSize_join_dropLast ['/'] steps
  obtain ⟨front, hfront, hnone⟩ := exists_front origin
  by_cases hne : steps = []
  · rw [hne]
    exact Nat.le_max_right _ _
  · rw [hfront steps hne, nameSize_append]
    by_cases hlast : steps.dropLast = []
    · rw [hlast]
      rcases hnone with hdot | hshort
      · rw [hdot]
        exact Nat.le_max_left _ _
      · omega
    · rw [hfront _ hlast, nameSize_append]
      omega

/-- Without double dots there is nothing to take back. -/
theorem fold_of_not_mem {steps : List Text} (h : up ∉ steps) (done : List Text) :
    fold done steps = done ++ steps := by
  induction steps generalizing done with
  | nil => exact (List.append_nil done).symm
  | cons s steps ih =>
    rw [List.mem_cons, not_or] at h
    rw [fold, if_neg (Ne.symm h.1), ih h.2, List.append_assoc]
    rfl

/-- The directory that a name is in can be looked up when the name can. -/
theorem Usable.parent {name : PathName} (h : name.Usable) : name.parent.Usable := by
  refine ⟨fun hnull => h.noNull ?_, ?_, h.inside⟩
  · simp only [hasNull, PathName.parent, List.any_eq_true] at hnull ⊢
    obtain ⟨s, hs, hnull⟩ := hnull
    exact ⟨s, List.dropLast_subset _ hs, hnull⟩
  · have hdot : 1 ≤ FileTree.longestPath := by decide
    exact Nat.le_trans (nameSize_text_parent name) (Nat.max_le.2 ⟨hdot, h.short⟩)

end PathName

namespace FileTree

variable {tree : FileTree} {name : PathName} {p : Path}

/-- A name that leads somewhere leads there from a directory. -/
theorem get_parent_of_locate (h : tree.locate name = .ok p) :
    ∃ d, tree.get name.parent = .ok (d, .directory) := by
  obtain ⟨husable, hfollow⟩ := locate_eq_ok.1 h
  have hget : ∀ d, tree.follow [] name.parent.steps = .ok d → tree.find? d = some .directory →
      tree.get name.parent = .ok (d, .directory) := by
    intro d hd hfind
    have hlocate : tree.locate name.parent = .ok d := locate_eq_ok.2 ⟨husable.parent, hd⟩
    simp only [get, hlocate, bind, Except.bind, hfind]
  by_cases hne : name.steps = []
  · have hnil : name.parent.steps = [] := by rw [PathName.parent, hne, List.dropLast_nil]
    exact ⟨[], hget [] (by rw [hnil]; rfl) (find?_nil tree)⟩
  · -- the last step is followed from the directory
    have hsteps : name.steps = name.parent.steps ++ [name.steps.getLast hne] :=
      (List.dropLast_concat_getLast hne).symm
    rw [hsteps, follow_append] at hfollow
    cases hd : tree.follow [] name.parent.steps with
    | error e =>
      rw [hd] at hfollow
      exact absurd hfollow (by simp [bind, Except.bind])
    | ok d =>
      rw [hd] at hfollow
      exact ⟨d, hget d hd (follow_cons_eq_ok.1 hfollow).1⟩

/-- A directory that is there need not be made. -/
theorem makeDirectories_of_isDirectory (h : tree.isDirectory name = true) :
    tree.makeDirectories name = (.ok (), tree) := by
  have hmake : tree.makeDirectory name = .error .exists := by
    rw [makeDirectory, if_pos h]
    rfl
  rw [makeDirectories, hmake]
  exact if_pos h

/-- Where a name leads somewhere, no directory on the way to it is missing. -/
theorem makeDirectories_parent_of_locate (h : tree.locate name = .ok p) :
    tree.makeDirectories name.parent = (.ok (), tree) := by
  obtain ⟨d, hd⟩ := get_parent_of_locate h
  exact makeDirectories_of_isDirectory (by rw [isDirectory, hd])

end FileTree

namespace Output

open FileTree

variable {check? : Option (Text → Except Failure Unit)} {settings : Settings} {tree : FileTree}
  {name : PathName} {content : Text} {p : Path}

/-! ### Temporary files that fit -/

theorem nameSize_temporaryName (t : Text) : nameSize (temporaryName t 0) = nameSize t + 14 := by
  have hdot : nameSize ['.'] = 1 := by decide
  have hbehind : nameSize ('.' :: (Text.zeroFill 8 (Text.ofNat 0) ++ ['.', 't', 'm', 'p'])) = 13 :=
    by decide
  change nameSize (['.'] ++ (t ++ '.' :: (Text.zeroFill 8 (Text.ofNat 0) ++ _))) = _
  rw [PathName.nameSize_append, PathName.nameSize_append, hdot, hbehind]
  omega

/-- **A temporary file takes fourteen bytes more** than an output file that is named without double
dots, in its name and in its path. -/
theorem temporaryFits_iff (hne : name.steps ≠ []) (hup : PathName.up ∉ name.steps) :
    TemporaryFits name ↔
      nameSize name.name + 14 ≤ longestName ∧ nameSize name.text + 14 ≤ longestPath := by
  obtain ⟨origin, steps⟩ := name
  obtain ⟨front, last, rfl⟩ : ∃ front last, steps = front ++ [last] :=
    ⟨_, _, (List.dropLast_concat_getLast hne).symm⟩
  have hname : (PathName.mk origin (front ++ [last])).name = last := by simp [PathName.name]
  have hfor : temporaryFor ⟨origin, front ++ [last]⟩ =
      ⟨origin, front ++ [temporaryName last 0]⟩ := by
    have hfront : PathName.up ∉ front := fun h => hup (List.mem_append_left _ h)
    rw [temporaryFor, hname, PathName.parent, List.dropLast_concat,
      PathName.fold_of_not_mem hfront, List.nil_append]
  obtain ⟨k, hk⟩ := PathName.exists_nameSize_text origin front
  rw [TemporaryFits, hfor, hname, hk, hk, nameSize_temporaryName, Nat.add_assoc]

/-! ### Where writing all or nothing succeeds -/

/-- Where a name leads somewhere, a temporary file is made if it fits. -/
theorem makeTemporary_of_locate (hp : tree.locate name = .ok p) (content : Text) :
    ∃ t, tree.find? t = none ∧ makeTemporary tree name content =
      if TemporaryFits name then .ok (t, tree.put t (.file (Text.encodeUtf8 content)))
      else .error .nameTooLong := by
  obtain ⟨d, hd⟩ := get_parent_of_locate hp
  have hparent : tree.locate name.parent = .ok d := (get_eq_ok hd).1
  have hnull : name.hasNull = false := by simpa using (locate_eq_ok.1 hp).1.noNull
  refine ⟨_, find?_temporaryPath tree d name.name, ?_⟩
  simp only [makeTemporary, hparent, bind, Except.bind, hnull]
  by_cases hfits : TemporaryFits name
  · rw [if_pos hfits, if_neg (not_not_intro hfits)]
    rfl
  · rw [if_neg hfits, if_pos hfits]
    rfl

/-- A temporary file can take the place of a file, and the place where there is none. -/
theorem exists_replace {t : Path} (hp : tree.locate name = .ok p)
    (hnot : tree.find? p ≠ some .directory) (hup : name.name ≠ PathName.up)
    (hfree : tree.find? t = none) (bytes : List UInt8) :
    ∃ after, replace (tree.put t (.file bytes)) t name = .ok after := by
  have ht : t ≠ [] := ne_nil_of_find? (show tree.find? t ≠ some .directory by simp [hfree])
  have hmoved := find?_put_self tree ht (.file bytes)
  have hkept : ∀ q, q ≠ t → (tree.put t (.file bytes)).find? q = tree.find? q :=
    fun q hq => find?_put_of_ne tree hq _
  generalize tree.put t (.file bytes) = staged at hmoved hkept ⊢
  have hne : name.steps ≠ [] := by
    intro hnil
    have hfollow := (locate_eq_ok.1 hp).2
    rw [hnil] at hfollow
    exact ne_nil_of_find? hnot (Except.ok.inj hfollow).symm
  have hlocate : staged.locate name = .ok p := by
    refine locate_mono (fun r hr => ?_) hp
    have hrt : r ≠ t := by
      rintro rfl
      simp [hfree] at hr
    rwa [hkept r hrt]
  have hplace : staged.find? p ≠ some .directory := by
    by_cases hpt : p = t
    · rw [hpt, hmoved]
      simp
    · rwa [hkept p hpt]
  refine ⟨(staged.erase t).put p (.file bytes), ?_⟩
  unfold replace
  rw [if_neg (not_or.2 ⟨hne, hup⟩)]
  simp only [bind, Except.bind, hlocate, hmoved]

/-- **A file is written all or nothing** if its content has an encoding and passes its check, and
if its temporary file fits. -/
theorem result_write_eq_ok_iff (hp : tree.locate name = .ok p)
    (hnot : tree.find? p ≠ some .directory) (hup : name.name ≠ PathName.up)
    (hcheck : ∀ check, check? = some check → check content = .ok ()) :
    (write check? tree name content).result = .ok () ↔
      Text.surrogates? content = none ∧ TemporaryFits name := by
  obtain ⟨t, hfree, htemp⟩ := makeTemporary_of_locate hp content
  unfold write
  rw [makeDirectories_parent_of_locate hp]
  dsimp only
  by_cases hfits : TemporaryFits name
  · rw [if_pos hfits] at htemp
    obtain ⟨after, hreplace⟩ := exists_replace hp hnot hup hfree (Text.encodeUtf8 content)
    rw [htemp]
    cases hrun : Text.surrogates? content with
    | some run => simp
    | none =>
      cases check? with
      | some check => simp [hcheck check rfl, hreplace, hfits]
      | none => simp [hreplace, hfits]
  · rw [if_neg hfits] at htemp
    rw [htemp]
    exact ⟨fun h => absurd h (by simp), fun h => absurd h.2 hfits⟩

/-! ### Outcomes -/

/-- **Two ways of saving have the same outcome**, as it is seen from outside: both succeed or both
fail, and they leave the same files and directories behind. -/
structure SameOutcome (x y : Except Failure Unit × FileTree) : Prop where
  /-- Both succeed or both fail. -/
  succeeds : x.1 = .ok () ↔ y.1 = .ok ()
  /-- What they leave behind is the same everywhere. -/
  leaves : ∀ q, x.2.find? q = y.2.find? q

theorem SameOutcome.refl (x : Except Failure Unit × FileTree) : SameOutcome x x :=
  ⟨Iff.rfl, fun _ => rfl⟩

/-- **The output file has a place in which both ways of saving do the same.** -/
structure EitherWay (tree : FileTree) (name : PathName) (content : Text) : Prop where
  /-- No directory has to be made for it. -/
  noneMade : ∀ q, (tree.makeDirectories name.parent).2.find? q = tree.find? q
  /-- A file can be written there, and a temporary file beside it; or the content has no encoding
  and the file is empty already. -/
  writable : ∀ p, tree.locate name = .ok p → tree.find? p ≠ some .directory →
    Text.surrogates? content = none ∧ TemporaryFits name ∨
      Text.surrogates? content ≠ none ∧ tree.find? p = some (.file [])

/-- In a directory that is there, a content with an encoding is written either way if the temporary
file fits. -/
theorem EitherWay.of_isDirectory (hdirectory : tree.isDirectory name.parent = true)
    (hrun : Text.surrogates? content = none)
    (hfits : TemporaryFits name) :
    EitherWay tree name content where
  noneMade q := by rw [makeDirectories_of_isDirectory hdirectory]
  writable _ _ _ := .inl ⟨hrun, hfits⟩

/-! ### Writing in place -/

section InPlace

variable (hnone : refusal? settings tree name = none)

include hnone

theorem saveInPlace_of_locate_error {e : FileError} (h : tree.locate name = .error e) :
    saveInPlace settings tree name content = (.error (.file e name.text), tree) := by
  simp only [saveInPlace, hnone, overwrite, h, bind, Except.bind]

theorem saveInPlace_of_directory (hp : tree.locate name = .ok p)
    (hdirectory : tree.find? p = some .directory) :
    saveInPlace settings tree name content = (.error (.file .isDirectory name.text), tree) := by
  simp only [saveInPlace, hnone, overwrite, hp, bind, Except.bind, hdirectory]

theorem saveInPlace_of_file (hp : tree.locate name = .ok p)
    (hnot : tree.find? p ≠ some .directory) :
    saveInPlace settings tree name content =
      match Text.surrogates? content with
      | none => (.ok (), tree.put p (.file (Text.encodeUtf8 content)))
      | some run => (.error (.unencodable run), tree.put p (.file [])) := by
  simp only [saveInPlace, hnone, overwrite, hp, bind, Except.bind]
  cases hrun : Text.surrogates? content with
  | none => simp
  | some run => simp [Text.encodeUtf8]

end InPlace

/-! ### When the two ways have the same outcome -/

/-- Where a name leads to no file, both ways fail; all or nothing can have made directories. -/
theorem sameOutcome_iff_of_locate_error {e : FileError} (h : tree.locate name = .error e)
    (hnone : refusal? settings tree name = none) :
    SameOutcome ((write check? tree name content).result, (write check? tree name content).tree)
        (saveInPlace settings tree name content) ↔
      ∀ q, (tree.makeDirectories name.parent).2.find? q = tree.find? q := by
  rw [saveInPlace_of_locate_error hnone h]
  have heffect := effect_write check? tree name content
  constructor
  · intro hsame q
    cases heffect with
    | failed _ _ hfind => rw [← hfind, hsame.leaves]
    | done _ hok _ _ _ => exact absurd (hsame.succeeds.1 hok) (by simp)
  · intro hmade
    cases heffect with
    | failed e' herror hfind =>
      exact ⟨by simp [herror], fun q => (hfind q).trans (hmade q)⟩
    | done p _ hp _ _ =>
      -- with no directory made the name leads nowhere still
      have hlocate : tree.locate name = .ok p := locate_mono (fun r hr => by rwa [← hmade]) hp
      exact absurd (h.symm.trans hlocate) (by simp)

theorem sameOutcome_iff_of_file (hp : tree.locate name = .ok p)
    (hnot : tree.find? p ≠ some .directory) (hup : name.name ≠ PathName.up)
    (hcheck : ∀ check, check? = some check → check content = .ok ())
    (hnone : refusal? settings tree name = none) :
    SameOutcome ((write check? tree name content).result, (write check? tree name content).tree)
        (saveInPlace settings tree name content) ↔
      Text.surrogates? content = none ∧ TemporaryFits name ∨
        Text.surrogates? content ≠ none ∧ tree.find? p = some (.file []) := by
  have hpnil : p ≠ [] := ne_nil_of_find? hnot
  have hresult := result_write_eq_ok_iff hp hnot hup hcheck
  have heffect := effect_write check? tree name content
  rw [makeDirectories_parent_of_locate hp] at heffect
  rw [saveInPlace_of_file hnone hp hnot]
  generalize write check? tree name content = w at hresult heffect ⊢
  cases hrun : Text.surrogates? content with
  | none =>
    rw [hrun] at hresult
    constructor
    · exact fun hsame => .inl (hresult.1 (hsame.succeeds.2 rfl))
    · rintro (hwritable | ⟨hsome, -⟩)
      · have hok := hresult.2 hwritable
        refine ⟨⟨fun _ => rfl, fun _ => hok⟩, fun q => ?_⟩
        cases heffect with
        | failed e herror _ => exact absurd (herror.symm.trans hok) (by simp)
        | done p' _ hp' _ hfind =>
          obtain rfl : p = p' := Except.ok.inj (hp.symm.trans hp')
          exact hfind q
      · exact absurd rfl hsome
  | some run =>
    have hnot' : w.result ≠ .ok () := by simp [hresult, hrun]
    -- nothing is written, where in place the file is emptied
    have hleft : ∀ q, w.tree.find? q = tree.find? q := by
      cases heffect with
      | failed _ _ hfind => exact hfind
      | done _ hok _ _ _ => exact absurd hok hnot'
    constructor
    · intro hsame
      have hfind := hsame.leaves p
      rw [hleft, find?_put_self tree hpnil] at hfind
      exact .inr ⟨by simp, hfind⟩
    · rintro (⟨hencodable, -⟩ | ⟨-, hempty⟩)
      · exact absurd hencodable (by simp)
      · refine ⟨by simp [hnot'], fun q => ?_⟩
        rw [hleft]
        by_cases hqp : q = p
        · rw [hqp, hempty, find?_put_self tree hpnil]
        · rw [find?_put_of_ne tree hqp]

theorem sameOutcome_write_iff (hup : name.name ≠ PathName.up)
    (hcheck : ∀ check, check? = some check → check content = .ok ())
    (hnone : refusal? settings tree name = none) :
    SameOutcome ((write check? tree name content).result, (write check? tree name content).tree)
        (saveInPlace settings tree name content) ↔ EitherWay tree name content := by
  cases hp : tree.locate name with
  | error e =>
    rw [sameOutcome_iff_of_locate_error hp hnone]
    exact ⟨fun hmade => ⟨hmade, fun p hp' => absurd (hp.symm.trans hp') (by simp)⟩,
      fun h => h.noneMade⟩
  | ok p =>
    have hmade : ∀ q, (tree.makeDirectories name.parent).2.find? q = tree.find? q := fun q => by
      rw [makeDirectories_parent_of_locate hp]
    by_cases hnot : tree.find? p = some .directory
    · -- a directory is never written
      have heffect := effect_write check? tree name content
      rw [makeDirectories_parent_of_locate hp] at heffect
      rw [saveInPlace_of_directory hnone hp hnot]
      refine ⟨fun _ => ⟨hmade, fun p' hp' hnot' => ?_⟩, fun _ => ?_⟩
      · obtain rfl : p = p' := Except.ok.inj (hp.symm.trans hp')
        exact absurd hnot hnot'
      · cases heffect with
        | failed e herror hfind => exact ⟨by simp [herror], hfind⟩
        | done p' _ hp' hnot' _ =>
          obtain rfl : p = p' := Except.ok.inj (hp.symm.trans hp')
          exact absurd hnot hnot'
    · rw [sameOutcome_iff_of_file hp hnot hup hcheck hnone]
      refine ⟨fun h => ⟨hmade, fun p' hp' _ => ?_⟩, fun h => h.writable p hp hnot⟩
      obtain rfl : p = p' := Except.ok.inj (hp.symm.trans hp')
      exact h

/-- In both modes a file that is written all or nothing is refused as one that is written in
place. -/
theorem saveAtomically_eq_of_mode
    (hmode : settings.mode = .known .errorIfExists ∨ settings.mode = .known .force)
    (tree : FileTree) (name : PathName) (content : Text) :
    saveAtomically settings tree name content =
      match refusal? settings tree name with
      | some e => { result := .error e, tree }
      | none => write (if settings.validateBeforeWrite.truthy then some check else none) tree name
          content := by
  have hne : Stored.known Mode.errorIfExists ≠ .known .force := by simp
  unfold saveAtomically refusal?
  rcases hmode with herror | hforce
  · rw [herror, if_neg hne, if_pos rfl]
    unfold writeIfMissing
    cases tree.exists name with
    | error e => rfl
    | ok there => cases there <;> rfl
  · rw [hforce, if_pos rfl, if_neg hne.symm]

/-- **The two ways of saving have the same outcome**, in each of the two modes and for a content
that passes the check, if and only if the output file is refused, or has a place in which both do
the same. -/
theorem sameOutcome_iff (tree : FileTree) {yes no : Value} (hyes : yes.truthy) (hno : ¬no.truthy)
    (hmode : settings.mode = .known .errorIfExists ∨ settings.mode = .known .force)
    (hup : name.name ≠ PathName.up) (hcheck : check content = .ok ()) :
    SameOutcome (save { settings with atomicWrite := yes } tree name content)
        (save { settings with atomicWrite := no } tree name content) ↔
      (refusal? settings tree name).isSome ∨ EitherWay tree name content := by
  have hatomic : save { settings with atomicWrite := yes } tree name content =
      ((saveAtomically settings tree name content).result,
        (saveAtomically settings tree name content).tree) := if_pos hyes
  have hplace : save { settings with atomicWrite := no } tree name content =
      saveInPlace settings tree name content := if_neg hno
  rw [hatomic, hplace, saveAtomically_eq_of_mode hmode]
  cases hrefusal : refusal? settings tree name with
  | some e =>
    simp only [saveInPlace, hrefusal]
    exact ⟨fun _ => .inl rfl, fun _ => .refl _⟩
  | none =>
    dsimp only
    rw [sameOutcome_write_iff hup _ hrefusal]
    · simp
    · intro check' heq
      split at heq
      · rwa [← Option.some.inj heq]
      · exact absurd heq (by simp)

end Output

end ApiTypes
