import ApiTypes.Failure
import ApiTypes.Files.PathName
import ApiTypes.Text.Utf8

/-!
# File trees

The part of the file system below the working directory, as a value: a list that says
for a path, which is the list of the names on the way, whether there is a file, with its
bytes, or a directory (`ApiTypes.FileTree.find?`). The working directory itself is always
there, and it is its own directory above.

The name of a path is followed step by step, through directories only
(`ApiTypes.FileTree.locate`). Operations that can fail part of the way give back the
tree as they leave it.
-/

namespace ApiTypes

/-- A path below the working directory: the names on the way. -/
abbrev Path := List Text

/-- What is at a path. -/
inductive Entry where
  /-- A file, with its bytes. -/
  | file (bytes : List UInt8)
  /-- A directory. -/
  | directory
deriving DecidableEq, Repr

/-- **A file tree.** -/
structure FileTree where
  /-- What is at the paths of the tree. -/
  entries : List (Path × Entry)
deriving DecidableEq, Repr

namespace FileTree

/-- The tree of an empty working directory. -/
def empty : FileTree := ⟨[]⟩

/-- What is at a path. -/
def find? (tree : FileTree) (p : Path) : Option Entry :=
  if p = [] then some .directory else tree.entries.lookup p

/-- The tree with nothing at a path. -/
def erase (tree : FileTree) (p : Path) : FileTree :=
  ⟨tree.entries.filter fun e => !decide (e.1 = p)⟩

/-- The tree with `e` at a path. -/
def put (tree : FileTree) (p : Path) (e : Entry) : FileTree := ⟨(tree.erase p).entries ++ [(p, e)]⟩

/-! ### Following names -/

/-- The most bytes that a name may have. -/
def longestName : Nat := 255

/-- The most bytes that a path may have. -/
def longestPath : Nat := 4095

/-- The number of bytes of a name. -/
def nameSize (s : Text) : Nat := (Text.encodeUtf8 s).length

/-- Follows steps from a path at which there is something; there need not be anything at
the last step. -/
def follow (tree : FileTree) (p : Path) : List Text → Except FileError Path
  | [] => .ok p
  | s :: rest =>
    match tree.find? p with
    | none => .error .notFound
    | some (.file _) => .error .notDirectory
    | some .directory =>
      if s = PathName.up then follow tree p.dropLast rest
      else if longestName < nameSize s then .error .nameTooLong
      else follow tree (p ++ [s]) rest

/-- **The path that a name leads to.** Outside of the working directory there is nothing, not
even at the root. -/
def locate (tree : FileTree) (name : PathName) : Except FileError Path :=
  if name.hasNull then .error .embeddedNull
  else if longestPath < nameSize name.text then .error .nameTooLong
  else
    match name.origin with
    | .root | .otherRoot =>
      if name.steps.head?.any (longestName < nameSize ·) then .error .nameTooLong
      else .error .notFound
    | _ => tree.follow [] name.steps

/-- What a name leads to. -/
def get (tree : FileTree) (name : PathName) : Except FileError (Path × Entry) := do
  let p ← tree.locate name
  match tree.find? p with
  | some e => .ok (p, e)
  | none => .error .notFound

/-- Whether there is a directory. -/
def isDirectory (tree : FileTree) (name : PathName) : Bool :=
  match tree.get name with
  | .ok (_, .directory) => true
  | _ => (name.origin = .root ∨ name.origin = .otherRoot) ∧ name.steps = []

/-- Whether there is a file; a name that is too long cannot be asked for. -/
def isFile (tree : FileTree) (name : PathName) : Except FileError Bool :=
  match tree.get name with
  | .ok (_, .file _) => .ok true
  | .error .nameTooLong => .error .nameTooLong
  | _ => .ok false

/-- Whether there is anything; a name that is too long cannot be asked for. -/
def «exists» (tree : FileTree) (name : PathName) : Except FileError Bool :=
  match tree.get name with
  | .ok _ => .ok true
  | .error .nameTooLong => .error .nameTooLong
  | .error _ => .ok (tree.isDirectory name)

/-- **The bytes of a file.** -/
def read (tree : FileTree) (name : PathName) : Except FileError (List UInt8) :=
  match tree.get name with
  | .ok (_, .file bytes) => .ok bytes
  | .ok (_, .directory) => .error .isDirectory
  | .error e => if tree.isDirectory name then .error .isDirectory else .error e

/-! ### Making directories -/

/-- The tree with a new directory. -/
def makeDirectory (tree : FileTree) (name : PathName) : Except FileError FileTree := do
  if tree.isDirectory name then throw .exists
  let p ← tree.locate name
  match tree.find? p with
  | some _ => .error .exists
  | none => .ok (tree.put p .directory)

/-- Makes a directory, unless it is there, with all directories on the way to it. It
fails at a name, with the directories made so far left behind. -/
def makeDirectories (tree : FileTree) (name : PathName) :
    Except (FileError × PathName) Unit × FileTree :=
  match tree.makeDirectory name with
  | .ok tree' => (.ok (), tree')
  | .error .notFound =>
    if h : name.steps = [] then (.error (.notFound, name), tree)
    else
      have : name.parent.steps.length < name.steps.length := by
        have := List.length_pos_iff.2 h
        simp only [PathName.parent, List.length_dropLast]
        omega
      match makeDirectories tree name.parent with
      | (.error e, tree') => (.error e, tree')
      | (.ok (), tree') =>
        match tree'.makeDirectory name with
        | .ok tree'' => (.ok (), tree'')
        | .error .notFound => (.error (.notFound, name), tree')
        | .error e => if tree'.isDirectory name then (.ok (), tree') else (.error (e, name), tree')
  | .error e => if tree.isDirectory name then (.ok (), tree) else (.error (e, name), tree)
termination_by name.steps.length

/-! ### Seeding -/

/-- The tree with `e` at a path and directories on the way to it. -/
def seed (tree : FileTree) (p : Path) (e : Entry) : FileTree :=
  let ways := (List.range p.length).map fun n => p.take n
  let made := ways.foldl (fun t q => if (t.find? q).isSome then t else t.put q .directory) tree
  match e, made.find? p with
  | .directory, some .directory => made
  | e, _ => made.put p e

/-! ### What is at a path -/

theorem lookup_filter_ne {p q : Path} (l : List (Path × Entry)) (h : q ≠ p) :
    (l.filter fun e => !decide (e.1 = p)).lookup q = l.lookup q := by
  induction l with
  | nil => rfl
  | cons e l ih =>
    obtain ⟨r, x⟩ := e
    by_cases hr : r = p
    · have hq : (q == r) = false := by simpa [hr] using h
      rw [List.filter_cons_of_neg (by simp [hr]), ih, List.lookup_cons, hq]
    · rw [List.filter_cons_of_pos (by simp [hr]), List.lookup_cons, List.lookup_cons, ih]

theorem lookup_filter_self (p : Path) (l : List (Path × Entry)) :
    (l.filter fun e => !decide (e.1 = p)).lookup p = none := by
  induction l with
  | nil => rfl
  | cons e l ih =>
    obtain ⟨r, x⟩ := e
    by_cases hr : r = p
    · rw [List.filter_cons_of_neg (by simp [hr]), ih]
    · have hp : (p == r) = false := by simpa using fun h => hr h.symm
      rw [List.filter_cons_of_pos (by simp [hr]), List.lookup_cons, hp, ih]

theorem find?_erase_of_ne (tree : FileTree) {p q : Path} (h : q ≠ p) :
    (tree.erase p).find? q = tree.find? q := by
  simp only [find?, erase, lookup_filter_ne _ h]

theorem find?_erase_self (tree : FileTree) {p : Path} (h : p ≠ []) :
    (tree.erase p).find? p = none := by
  simp only [find?, h, if_false, erase, lookup_filter_self]

theorem find?_put_self (tree : FileTree) {p : Path} (h : p ≠ []) (e : Entry) :
    (tree.put p e).find? p = some e := by
  simp only [find?, h, if_false, put, erase, List.lookup_append, lookup_filter_self]
  simp

theorem find?_put_of_ne (tree : FileTree) {p q : Path} (h : q ≠ p) (e : Entry) :
    (tree.put p e).find? q = tree.find? q := by
  have hq : (q == p) = false := by simpa using h
  simp only [find?, put, erase, List.lookup_append, lookup_filter_ne _ h, List.lookup_cons, hq]
  simp

end FileTree

end ApiTypes
