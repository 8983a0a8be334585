import ApiTypes.Output.Writer
import ApiTypes.Proofs.Files.Directories
import Mathlib.Data.List.Nodup
import Mathlib.Data.List.Perm.Subperm

/-!
# Writing a file all or nothing

A file is written in three steps: the directories on the way to it are made, its content goes
to a temporary file, and the temporary file takes its place. The first step is the one that
stays when a later one fails, so what the others do is told over the tree that it leaves
(`ApiTypes.Output.Effect`): nothing at all, or a single change of a single path, to which the
name leads and where there was no directory. `ApiTypes.Output.effect_write` is this, whatever
the tree, the check and the name.

Two things are behind it. The temporary file is in the directory of the output file and has
another name, since a directory has fewer entries than there are names for temporary files
(`ApiTypes.Output.find?_temporaryPath`). And it is no directory, so that all names lead where
they led without it (`ApiTypes.Output.find?_of_replace`).

For a content with a character that takes the place of a surrogate
(`ApiTypes.Text.ofCodePoint`) nothing is told here but that it is not written.
-/

namespace ApiTypes.Output

open FileTree

/-! ### Temporary files -/

theorem ofDigitChars_zeroFill (width n : Nat) :
    Nat.ofDigitChars 10 (Text.zeroFill width (Text.ofNat n)) 0 = n := by
  rw [Text.zeroFill, Nat.ofDigitChars_append, Nat.ofDigitChars_replicate_zero, Nat.mul_zero]
  exact Nat.ofDigitChars_toDigits (by decide) (by decide)

theorem temporaryName_injective (name : Text) : Function.Injective (temporaryName name) := by
  intro m n h
  have hnumeral : Text.zeroFill 8 (Text.ofNat m) = Text.zeroFill 8 (Text.ofNat n) := by
    simpa [temporaryName] using h
  rw [← ofDigitChars_zeroFill 8 m, hnumeral, ofDigitChars_zeroFill]

/-- A temporary file is named after the output file, and otherwise than that. -/
theorem temporaryName_ne (name : Text) (n : Nat) : temporaryName name n ≠ name := by
  intro h
  have hlength := congrArg List.length h
  simp only [temporaryName, List.length_cons, List.length_append] at hlength
  omega

variable {tree : FileTree} {directory : Path} {name : Text}

theorem find?_of_temporaryPath {fuel n : Nat}
    (h : (tree.find? (temporaryPath tree directory name fuel n)).isSome) {k : Nat} (hk : k ≤ fuel) :
    (tree.find? (directory ++ [temporaryName name (n + k)])).isSome := by
  induction fuel generalizing n k with
  | zero =>
    obtain rfl : k = 0 := by omega
    exact h
  | succ fuel ih =>
    rw [temporaryPath] at h
    split at h
    · next hfirst =>
      cases k with
      | zero => exact hfirst
      | succ k =>
        rw [show n + (k + 1) = n + 1 + k by omega]
        exact ih h (by omega)
    · next hfirst => exact absurd h hfirst

theorem mem_entries_of_find? {p : Path} (hp : p ≠ []) (h : (tree.find? p).isSome) :
    p ∈ tree.entries.map Prod.fst := by
  rw [find?, if_neg hp] at h
  obtain ⟨e, he⟩ := Option.isSome_iff_exists.1 h
  exact List.mem_map.2 ⟨(p, e), mem_of_lookup he, rfl⟩

/-- **A temporary file does not take the place of anything**: there are more names to choose
from than entries in the tree. -/
theorem find?_temporaryPath (tree : FileTree) (directory : Path) (name : Text) :
    tree.find? (temporaryPath tree directory name (tree.entries.length + 1) 0) = none := by
  by_contra htaken
  have hall : ∀ k ∈ List.range (tree.entries.length + 1),
      directory ++ [temporaryName name k] ∈ tree.entries.map Prod.fst := by
    intro k hk
    rw [List.mem_range] at hk
    have hfind := find?_of_temporaryPath (Option.isSome_iff_ne_none.2 htaken) (k := k) (by omega)
    rw [Nat.zero_add] at hfind
    exact mem_entries_of_find? (by simp) hfind
  have hinj : Function.Injective fun k => directory ++ [temporaryName name k] := by
    intro m n h
    exact temporaryName_injective name (by simpa using h)
  have hsub : (List.range (tree.entries.length + 1)).map
      (fun k => directory ++ [temporaryName name k]) ⊆ tree.entries.map Prod.fst := by
    intro p hp
    obtain ⟨k, hk, rfl⟩ := List.mem_map.1 hp
    exact hall k hk
  have hlength := (List.subperm_of_subset (List.Nodup.map hinj List.nodup_range) hsub).length_le
  simp only [List.length_map, List.length_range] at hlength
  omega

theorem temporaryPath_eq (tree : FileTree) (directory : Path) (name : Text) (fuel n : Nat) :
    ∃ k, temporaryPath tree directory name fuel n = directory ++ [temporaryName name k] := by
  induction fuel generalizing n with
  | zero => exact ⟨n, rfl⟩
  | succ fuel ih =>
    rw [temporaryPath]
    split
    · exact ih (n + 1)
    · exact ⟨n, rfl⟩

/-! ### The steps of writing a file -/

variable {name : PathName} {content : Text} {temporary : Path} {staged after : FileTree}

/-- A temporary file is a new one in the directory of the output file. -/
theorem makeTemporary_eq_ok (h : makeTemporary tree name content = .ok (temporary, staged)) :
    ∃ directory k, tree.locate name.parent = .ok directory ∧
      temporary = directory ++ [temporaryName name.name k] ∧ tree.find? temporary = none ∧
      staged = tree.put temporary (.file (Text.encodeUtf8 content)) := by
  simp only [makeTemporary, bind, Except.bind] at h
  split at h
  · exact nomatch h
  · next directory hdirectory =>
    split at h
    · exact nomatch h
    · split at h
      · exact nomatch h
      · obtain ⟨k, hk⟩ := temporaryPath_eq tree directory name.name (tree.entries.length + 1) 0
        obtain ⟨rfl, rfl⟩ := Prod.mk.inj (Except.ok.inj h)
        exact ⟨directory, k, hdirectory, hk, find?_temporaryPath tree directory name.name, rfl⟩

/-- What a file takes the place of is no directory. -/
theorem replace_eq_ok (h : replace staged temporary name = .ok after) :
    ∃ p e, name.steps ≠ [] ∧ name.name ≠ PathName.up ∧ staged.locate name = .ok p ∧
      staged.find? p ≠ some .directory ∧ staged.find? temporary = some e ∧
      after = (staged.erase temporary).put p e := by
  simp only [replace, bind, Except.bind] at h
  split at h
  · exact nomatch h
  · next hname =>
    rw [not_or] at hname
    split at h
    · exact nomatch h
    · next p hp =>
      split at h
      · exact nomatch h
      · next e hfound hnot =>
        exact ⟨p, e, hname.1, hname.2, hp, hnot, hfound, (Except.ok.inj h).symm⟩
      · exact nomatch h

/-! ### What writing a file does -/

/-- **What writing a file does** to the tree in which the directories on the way to it have been
made: nothing if it fails, and if not, it puts the content where the name leads to. -/
inductive Effect (made : FileTree) (name : PathName) (content : Text) (w : Written) : Prop
  /-- It fails. -/
  | failed (e : Failure) : w.result = .error e → (∀ q, w.tree.find? q = made.find? q) →
      Effect made name content w
  /-- It succeeds. -/
  | done (p : Path) : w.result = .ok () → made.locate name = .ok p →
      made.find? p ≠ some .directory →
      (∀ q, w.tree.find? q = (made.put p (.file (Text.encodeUtf8 content))).find? q) →
      Effect made name content w

/-- Without its temporary file the tree is what it was. -/
theorem find?_erase_put {made : FileTree} {t : Path} (h : made.find? t = none) (e : Entry)
    (q : Path) : ((made.put t e).erase t).find? q = made.find? q := by
  have ht : t ≠ [] := ne_nil_of_find? (show made.find? t ≠ some .directory by simp [h])
  by_cases hq : q = t
  · rw [hq, find?_erase_self _ ht, h]
  · rw [find?_erase_of_ne _ hq, find?_put_of_ne _ hq]

/-- The temporary file takes the place of the output file, and of nothing else. -/
theorem find?_of_replace {made : FileTree}
    (htemp : makeTemporary made name content = .ok (temporary, staged))
    (h : replace staged temporary name = .ok after) :
    ∃ p, made.locate name = .ok p ∧ made.find? p ≠ some .directory ∧
      ∀ q, after.find? q = (made.put p (.file (Text.encodeUtf8 content))).find? q := by
  obtain ⟨directory, k, hparent, htemporary, hfree, rfl⟩ := makeTemporary_eq_ok htemp
  obtain ⟨p, e, hne, hup, hp, hnot, he, rfl⟩ := replace_eq_ok h
  have htnil : temporary ≠ [] :=
    ne_nil_of_find? (show made.find? temporary ≠ some .directory by simp [hfree])
  have hcontent : e = .file (Text.encodeUtf8 content) := by
    rw [find?_put_self made htnil] at he
    exact (Option.some.inj he).symm
  -- the temporary file is no directory, so names lead where they led before
  have hlocate : made.locate name = .ok p := by
    refine locate_mono (fun r hr => ?_) hp
    by_cases hrt : r = temporary
    · rw [hrt, find?_put_self made htnil] at hr
      exact absurd hr (by simp)
    · rwa [find?_put_of_ne made hrt] at hr
  have hpt : p ≠ temporary := by
    rw [locate_of_parent hparent hlocate hne hup, htemporary]
    intro heq
    have hname : name.name = temporaryName name.name k := by simpa using heq
    exact temporaryName_ne name.name k hname.symm
  rw [find?_put_of_ne made hpt] at hnot
  refine ⟨p, hlocate, hnot, fun q => ?_⟩
  have hpnil : p ≠ [] := ne_nil_of_find? hnot
  by_cases hqp : q = p
  · rw [hqp, find?_put_self _ hpnil, find?_put_self _ hpnil, hcontent]
  · rw [find?_put_of_ne _ hqp, find?_put_of_ne _ hqp, find?_erase_put hfree]

theorem effect_write (check? : Option (Text → Except Failure Unit)) (tree : FileTree)
    (name : PathName) (content : Text) :
    Effect (tree.makeDirectories name.parent).2 name content (write check? tree name content) := by
  unfold write
  split
  · next e place made hmade =>
    rw [hmade]
    exact .failed _ rfl fun q => rfl
  · next made hmade =>
    rw [hmade]
    split
    · exact .failed _ rfl fun q => rfl
    · next temporary staged htemp =>
      have herased : ∀ q, (staged.erase temporary).find? q = made.find? q := by
        obtain ⟨_, _, -, -, hfree, rfl⟩ := makeTemporary_eq_ok htemp
        exact find?_erase_put hfree _
      split
      · exact .failed _ rfl herased
      · dsimp only
        split
        · exact .failed _ rfl herased
        · split
          · exact .failed _ rfl herased
          · next after hreplace =>
            obtain ⟨p, hp, hnot, hafter⟩ := find?_of_replace htemp hreplace
            exact .done p rfl hp hnot hafter

/-- What is written has passed its check. -/
theorem check_of_write {check : Text → Except Failure Unit}
    (h : (write (some check) tree name content).result = .ok ()) : check content = .ok () := by
  unfold write at h
  split at h
  · exact absurd h (by simp)
  · split at h
    · exact absurd h (by simp)
    · split at h
      · exact absurd h (by simp)
      · dsimp only at h
        split at h
        · exact absurd h (by simp)
        · next hcheck => exact hcheck

namespace Effect

variable {made : FileTree} {w : Written} {q : Path}

/-- No directory comes or goes. -/
theorem find?_eq_directory_iff (h : Effect made name content w) :
    w.tree.find? q = some .directory ↔ made.find? q = some .directory := by
  cases h with
  | failed _ _ hfind => rw [hfind]
  | done p _ _ hnot hfind =>
    rw [hfind]
    by_cases hqp : q = p
    · rw [hqp, find?_put_self made (ne_nil_of_find? hnot)]
      exact ⟨fun hfile => absurd hfile (by simp), fun hdir => absurd hdir hnot⟩
    · rw [find?_put_of_ne made hqp]

/-- Names lead where they led before. -/
theorem locate (h : Effect made name content w) {other : PathName}
    (hq : made.locate other = .ok q) : w.tree.locate other = .ok q :=
  locate_mono (fun _ hr => h.find?_eq_directory_iff.2 hr) hq

theorem rooted (h : Effect made name content w) (hrooted : made.Rooted) : w.tree.Rooted := by
  cases h with
  | failed _ _ hfind => exact hrooted.congr hfind
  | done p _ hp hnot hfind => exact (hrooted.put (hrooted.locate hp) hnot _).congr hfind

end Effect

end ApiTypes.Output
