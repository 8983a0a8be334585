import ApiTypes.Files.Tree
import Mathlib.Data.List.Induction

/-!
# Making directories

Where a name leads to is a matter of the directories of a tree: following it asks for nothing
else (`ApiTypes.FileTree.follow_mono`). So it stays where it is while the tree grows
(`ApiTypes.FileTree.Grows`), and making directories makes a tree grow, even when it fails:

* nothing that was there changes (`ApiTypes.FileTree.Made.grows`);
* what is new is on the way to the name (`ApiTypes.FileTree.Made.onTheWay`);
* if everything in the tree was in a directory, it still is (`ApiTypes.FileTree.Made.rooted`).

`ApiTypes.FileTree.Made` says what may become of a tree meanwhile, and
`ApiTypes.FileTree.made_makeDirectories` that nothing else does.
-/

namespace ApiTypes

theorem mem_of_lookup {α β : Type} [BEq α] [LawfulBEq α] {l : List (α × β)} {a : α} {b : β}
    (h : l.lookup a = some b) : (a, b) ∈ l := by
  obtain ⟨before, after, heq, -⟩ := List.lookup_eq_some_iff.1 h
  rw [heq]
  simp

namespace PathName

/-- The name that the first `k` steps of a name make. -/
def upTo (name : PathName) (k : Nat) : PathName := { name with steps := name.steps.take k }

theorem upTo_length (name : PathName) : name.upTo name.steps.length = name := by
  rw [upTo, List.take_length]

theorem upTo_parent {name : PathName} {k : Nat} (h : k ≤ name.parent.steps.length) :
    name.parent.upTo k = name.upTo k := by
  rw [parent, List.length_dropLast] at h
  rw [upTo, upTo, parent, List.dropLast_eq_take, List.take_take, Nat.min_eq_left h]

/-- A name that can be looked up below the working directory. -/
structure Usable (name : PathName) : Prop where
  /-- There is no null character in it. -/
  noNull : ¬name.hasNull
  /-- It is not too long. -/
  short : FileTree.nameSize name.text ≤ FileTree.longestPath
  /-- It does not begin at the root. -/
  inside : name.origin ≠ .root ∧ name.origin ≠ .otherRoot

end PathName

namespace FileTree

variable {tree tree' tree'' : FileTree} {p q : Path} {steps : List Text} {name : PathName}

@[simp]
theorem find?_nil (tree : FileTree) : tree.find? [] = some .directory := if_pos rfl

/-- Where there is no directory there is not the working directory. -/
theorem ne_nil_of_find? (h : tree.find? p ≠ some .directory) : p ≠ [] := by
  rintro rfl
  exact h (find?_nil tree)

/-! ### Following names -/

/-- **A step is followed** from a directory only, and it leads above it or to a name in it. -/
theorem follow_cons_eq_ok {s : Text} :
    tree.follow p (s :: steps) = .ok q ↔ tree.find? p = some .directory ∧
      (s = PathName.up ∧ tree.follow p.dropLast steps = .ok q ∨
        s ≠ PathName.up ∧ nameSize s ≤ longestName ∧ tree.follow (p ++ [s]) steps = .ok q) := by
  rw [follow]
  split
  · next hp => simp [hp]
  · next hp => simp [hp]
  · next hp =>
    by_cases hs : s = PathName.up
    · simp [hp, hs]
    · by_cases hlong : longestName < nameSize s
      · have hnot : ¬nameSize s ≤ longestName := by omega
        simp [hs, hlong, hnot]
      · have hshort : nameSize s ≤ longestName := by omega
        simp [hp, hs, hlong, hshort]

theorem locate_eq_ok :
    tree.locate name = .ok p ↔ name.Usable ∧ tree.follow [] name.steps = .ok p := by
  unfold locate
  split
  · next hnull => exact ⟨fun h => absurd h (by simp), fun h => absurd hnull h.1.noNull⟩
  · next hnull =>
    split
    · next hlong =>
      exact ⟨fun h => absurd h (by simp), fun h => absurd h.1.short (by omega)⟩
    · next hlong =>
      split
      · next horigin =>
        refine ⟨fun h => ?_, fun h => absurd horigin h.1.inside.1⟩
        split at h <;> exact absurd h (by simp)
      · next horigin =>
        refine ⟨fun h => ?_, fun h => absurd horigin h.1.inside.2⟩
        split at h <;> exact absurd h (by simp)
      · next hroot hother =>
        exact ⟨fun h => ⟨⟨hnull, by omega, fun e => hroot e, fun e => hother e⟩, h⟩, fun h => h.2⟩

/-- What there is at a name is at the path that it leads to. -/
theorem get_eq_ok {e : Entry} (h : tree.get name = .ok (p, e)) :
    tree.locate name = .ok p ∧ tree.find? p = some e := by
  simp only [get, bind, Except.bind] at h
  split at h
  · exact absurd h (by simp)
  · next q hq =>
    split at h
    · next e' he =>
      obtain ⟨rfl, rfl⟩ := Prod.mk.inj (Except.ok.inj h)
      exact ⟨hq, he⟩
    · exact absurd h (by simp)

theorem exists_of_get {e : Entry} (h : tree.get name = .ok (p, e)) :
    tree.exists name = .ok true := by
  rw [FileTree.exists, h]

theorem follow_append (tree : FileTree) (p : Path) (first second : List Text) :
    tree.follow p (first ++ second) = tree.follow p first >>= fun q => tree.follow q second := by
  induction first generalizing p with
  | nil => rfl
  | cons s first ih =>
    rw [List.cons_append, follow, follow]
    split
    · rfl
    · rfl
    · split
      · exact ih _
      · split
        · rfl
        · exact ih _

/-- A name whose last step does not go upward leads into the directory that its parent leads
to. -/
theorem locate_of_parent {d : Path} (hparent : tree.locate name.parent = .ok d)
    (hp : tree.locate name = .ok p) (hne : name.steps ≠ []) (hup : name.name ≠ PathName.up) :
    p = d ++ [name.name] := by
  have hname : name.name = name.steps.getLast hne := by
    rw [PathName.name, List.getLast?_eq_some_getLast hne, Option.getD_some]
  have hsteps : name.parent.steps ++ [name.name] = name.steps := by
    rw [hname]
    exact List.dropLast_concat_getLast hne
  have hfollow : tree.follow d [name.name] = .ok p := by
    have hall := (locate_eq_ok.1 hp).2
    rw [← hsteps, follow_append, (locate_eq_ok.1 hparent).2] at hall
    exact hall
  obtain ⟨-, ⟨hs, -⟩ | ⟨-, -, hend⟩⟩ := follow_cons_eq_ok.1 hfollow
  · exact absurd hs hup
  · exact (Except.ok.inj hend).symm

/-- Directories are all that following steps asks for. -/
theorem follow_mono (h : ∀ r, tree.find? r = some .directory → tree'.find? r = some .directory)
    (hq : tree.follow p steps = .ok q) : tree'.follow p steps = .ok q := by
  induction steps generalizing p with
  | nil => exact hq
  | cons s steps ih =>
    rw [follow_cons_eq_ok] at hq ⊢
    obtain ⟨hp, ⟨hs, hq⟩ | ⟨hs, hshort, hq⟩⟩ := hq
    · exact ⟨h p hp, .inl ⟨hs, ih hq⟩⟩
    · exact ⟨h p hp, .inr ⟨hs, hshort, ih hq⟩⟩

theorem locate_mono (h : ∀ r, tree.find? r = some .directory → tree'.find? r = some .directory)
    (hp : tree.locate name = .ok p) : tree'.locate name = .ok p := by
  rw [locate_eq_ok] at hp ⊢
  exact ⟨hp.1, follow_mono h hp.2⟩

/-- Without a step upward, following steps leads to the path that they make. -/
theorem follow_of_not_up (hup : PathName.up ∉ steps) (hq : tree.follow p steps = .ok q) :
    q = p ++ steps := by
  induction steps generalizing p with
  | nil => rw [← Except.ok.inj hq, List.append_nil]
  | cons s steps ih =>
    rw [List.mem_cons, not_or] at hup
    obtain ⟨-, ⟨hs, -⟩ | ⟨-, -, hq⟩⟩ := follow_cons_eq_ok.1 hq
    · exact absurd hs.symm hup.1
    · rw [ih hup.2 hq, List.append_assoc, List.singleton_append]

/-! ### Rooted trees -/

/-- **A rooted tree**: everything in it is in a directory. -/
def Rooted (tree : FileTree) : Prop :=
  ∀ p e, tree.find? p = some e → tree.find? p.dropLast = some .directory

namespace Rooted

theorem congr (h : tree.Rooted) (heq : ∀ q, tree'.find? q = tree.find? q) : tree'.Rooted := by
  intro q e hq
  rw [heq] at hq ⊢
  exact h q e hq

/-- Where something is, the way to it leads through directories. -/
theorem append (h : tree.Rooted) {r : Path} {e : Entry} (hq : tree.find? (p ++ r) = some e)
    (hr : r ≠ []) : tree.find? p = some .directory := by
  induction r using List.reverseRecOn generalizing e with
  | nil => exact absurd rfl hr
  | append_singleton r s ih =>
    have hparent : tree.find? (p ++ r) = some .directory := by
      have hdir := h _ e hq
      rwa [← List.append_assoc, List.dropLast_concat] at hdir
    by_cases hnil : r = []
    · rwa [hnil, List.append_nil] at hparent
    · exact ih hparent hnil

/-- Names lead to paths in directories. -/
theorem follow (h : tree.Rooted) (hp : tree.find? p.dropLast = some .directory)
    (hq : tree.follow p steps = .ok q) : tree.find? q.dropLast = some .directory := by
  induction steps generalizing p with
  | nil => rwa [← Except.ok.inj hq]
  | cons s steps ih =>
    obtain ⟨hdir, ⟨-, hq⟩ | ⟨-, -, hq⟩⟩ := follow_cons_eq_ok.1 hq
    · exact ih (h _ _ hp) hq
    · exact ih (by rwa [List.dropLast_concat]) hq

theorem locate (h : tree.Rooted) (hp : tree.locate name = .ok p) :
    tree.find? p.dropLast = some .directory :=
  h.follow (p := []) (find?_nil tree) (locate_eq_ok.1 hp).2

theorem put (h : tree.Rooted) (hparent : tree.find? p.dropLast = some .directory)
    (hp : tree.find? p ≠ some .directory) (e : Entry) : (tree.put p e).Rooted := by
  have hne : p ≠ [] := ne_nil_of_find? hp
  intro q e' hq
  by_cases hqp : q = p
  · have hup : p.dropLast ≠ p := by
      intro heq
      have hlength := congrArg List.length heq
      have hpos := List.length_pos_iff.2 hne
      rw [List.length_dropLast] at hlength
      omega
    rw [hqp, find?_put_of_ne tree hup]
    exact hparent
  · rw [find?_put_of_ne tree hqp] at hq
    have hdir : tree.find? q.dropLast = some .directory := h q e' hq
    have hup : q.dropLast ≠ p := by
      rintro rfl
      exact hp hdir
    rwa [find?_put_of_ne tree hup]

/-- A path with something at it is found by the name that leads to it, without steps upward,
in some other tree. -/
theorem locate_of_find? (h : tree.Rooted) (hup : PathName.up ∉ name.steps)
    (hp : tree'.locate name = .ok p) {e : Entry} (he : tree.find? p = some e) :
    tree.locate name = .ok p := by
  have hfollow : ∀ {steps : List Text} {q : Path}, PathName.up ∉ steps →
      tree'.follow q steps = .ok p → tree.follow q steps = .ok p := by
    intro steps
    induction steps with
    | nil => exact fun _ hq => hq
    | cons s steps ih =>
      intro q hup hq
      have hway : p = q ++ s :: steps := follow_of_not_up hup hq
      rw [List.mem_cons, not_or] at hup
      obtain ⟨-, ⟨hs, -⟩ | ⟨hs, hshort, hq⟩⟩ := follow_cons_eq_ok.1 hq
      · exact absurd hs.symm hup.1
      · have hdir : tree.find? q = some .directory := h.append (hway ▸ he) (by simp)
        exact follow_cons_eq_ok.2 ⟨hdir, .inr ⟨hs, hshort, ih hup.2 hq⟩⟩
  obtain ⟨husable, hq⟩ := locate_eq_ok.1 hp
  exact locate_eq_ok.2 ⟨husable, hfollow hup hq⟩

end Rooted

/-! ### Growing trees -/

/-- **A tree grows**: what was there stays, and what is new are directories. -/
structure Grows (tree tree' : FileTree) : Prop where
  /-- What was there stays. -/
  kept : ∀ {q e}, tree.find? q = some e → tree'.find? q = some e
  /-- What is new is a directory. -/
  new : ∀ {q e}, tree.find? q = none → tree'.find? q = some e → e = .directory

theorem Grows.refl (tree : FileTree) : Grows tree tree where
  kept h := h
  new hnone hsome := absurd (hnone.symm.trans hsome) (by simp)

theorem Grows.trans (h : Grows tree tree') (h' : Grows tree' tree'') : Grows tree tree'' where
  kept hq := h'.kept (h.kept hq)
  new := by
    intro q e hnone hsome
    cases hq : tree'.find? q with
    | none => exact h'.new hq hsome
    | some e' =>
      obtain rfl : e' = e := Option.some.inj ((h'.kept hq).symm.trans hsome)
      exact h.new hnone hq

theorem Grows.put_directory (h : tree.find? p = none) : Grows tree (tree.put p .directory) := by
  have hp : p ≠ [] := ne_nil_of_find? (show tree.find? p ≠ some .directory by simp [h])
  refine ⟨fun {q e} hq => ?_, fun {q e} hnone hsome => ?_⟩
  · have hne : q ≠ p := by
      rintro rfl
      simp [h] at hq
    rwa [find?_put_of_ne tree hne]
  · by_cases hqp : q = p
    · rw [hqp, find?_put_self tree hp] at hsome
      exact (Option.some.inj hsome).symm
    · rw [find?_put_of_ne tree hqp, hnone] at hsome
      exact absurd hsome (by simp)

/-- The bytes of the file at a path, if there is one. -/
def bytes? (tree : FileTree) (p : Path) : Option (List UInt8) :=
  match tree.find? p with
  | some (.file bytes) => some bytes
  | _ => none

theorem bytes?_congr (h : tree'.find? p = tree.find? p) : tree'.bytes? p = tree.bytes? p := by
  rw [bytes?, bytes?, h]

/-- No file changes while a tree grows. -/
theorem Grows.bytes?_eq (h : Grows tree tree') (p : Path) : tree'.bytes? p = tree.bytes? p := by
  cases hp : tree.find? p with
  | some e => exact bytes?_congr ((h.kept hp).trans hp.symm)
  | none =>
    cases hp' : tree'.find? p with
    | none => exact bytes?_congr (hp'.trans hp.symm)
    | some e =>
      obtain rfl : e = .directory := h.new hp hp'
      rw [bytes?, bytes?, hp, hp']

theorem Grows.locate (h : Grows tree tree') (hp : tree.locate name = .ok p) :
    tree'.locate name = .ok p :=
  locate_mono (fun _ hr => h.kept hr) hp

/-! ### Making directories -/

theorem makeDirectory_eq_ok (h : tree.makeDirectory name = .ok tree') :
    ∃ p, tree.locate name = .ok p ∧ tree.find? p = none ∧ tree' = tree.put p .directory := by
  unfold makeDirectory at h
  split at h
  · exact absurd h (by simp [throw, throwThe, MonadExceptOf.throw, bind, Except.bind])
  · simp only [bind, Except.bind] at h
    split at h
    · exact absurd h (by simp)
    · next p hp =>
      split at h
      · exact absurd h (by simp)
      · next hnone => exact ⟨p, hp, hnone, (Except.ok.inj h).symm⟩

/-- **What may become of a tree while directories on the way to a name are made**: one after
the other, any number of them. -/
inductive Made (name : PathName) (tree : FileTree) : FileTree → Prop
  /-- No directory is made. -/
  | none : Made name tree tree
  /-- One more directory is made. -/
  | one {tree' tree'' : FileTree} {k : Nat} : Made name tree tree' → k ≤ name.steps.length →
      tree'.makeDirectory (name.upTo k) = .ok tree'' → Made name tree tree''

namespace Made

theorem of_parent (h : Made name.parent tree tree') : Made name tree tree' := by
  induction h with
  | none => exact .none
  | one _ hk hmake ih =>
    have hlength : name.parent.steps.length ≤ name.steps.length := by
      simp [PathName.parent]
    rw [PathName.upTo_parent hk] at hmake
    exact ih.one (Nat.le_trans hk hlength) hmake

theorem grows (h : Made name tree tree') : Grows tree tree' := by
  induction h with
  | none => exact .refl tree
  | one _ _ hmake ih =>
    obtain ⟨p, -, hnone, rfl⟩ := makeDirectory_eq_ok hmake
    exact ih.trans (.put_directory hnone)

/-- **What is new is on the way.** -/
theorem onTheWay (h : Made name tree tree') (hq : tree.find? q = .none)
    (hne : tree'.find? q ≠ .none) :
    ∃ k ≤ name.steps.length, tree'.locate (name.upTo k) = .ok q := by
  induction h with
  | none => exact absurd hq hne
  | @one tree' _ k _ hk hmake ih =>
    obtain ⟨p, hp, hnone, rfl⟩ := makeDirectory_eq_ok hmake
    have hgrows : Grows tree' (tree'.put p .directory) := .put_directory hnone
    by_cases hqp : q = p
    · rw [hqp]
      exact ⟨k, hk, hgrows.locate hp⟩
    · rw [find?_put_of_ne tree' hqp] at hne
      obtain ⟨m, hm, hlocate⟩ := ih hne
      exact ⟨m, hm, hgrows.locate hlocate⟩

theorem rooted (h : Made name tree tree') (hrooted : tree.Rooted) : tree'.Rooted := by
  induction h with
  | none => exact hrooted
  | one _ _ hmake ih =>
    obtain ⟨p, hp, hnone, rfl⟩ := makeDirectory_eq_ok hmake
    exact ih.put (ih.locate hp) (by simp [hnone]) .directory

end Made

theorem made_makeDirectories (tree : FileTree) (name : PathName) :
    Made name tree (tree.makeDirectories name).2 := by
  have hlast : ∀ {tree' tree'' : FileTree} {name : PathName}, Made name.parent tree tree' →
      tree'.makeDirectory name = .ok tree'' → Made name tree tree'' := by
    intro tree' tree'' name h hmake
    rw [← name.upTo_length] at hmake
    exact h.of_parent.one (Nat.le_refl _) hmake
  fun_induction makeDirectories tree name with
  | case1 name tree' hmake => exact hlast .none hmake
  | case2 => exact .none
  | case3 name _ _ _ e tree' hparent ih =>
    rw [hparent] at ih
    exact ih.of_parent
  | case4 name _ _ _ tree' hparent tree'' hmake ih =>
    rw [hparent] at ih
    exact hlast ih hmake
  | case5 name _ _ _ tree' hparent _ ih =>
    rw [hparent] at ih
    exact ih.of_parent
  | case6 name _ _ _ tree' hparent _ _ _ _ ih
  | case7 name _ _ _ tree' hparent _ _ _ _ ih =>
    rw [hparent] at ih
    exact ih.of_parent
  | case8
  | case9 => exact .none

end FileTree

end ApiTypes
