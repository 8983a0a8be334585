import ApiTypes.Files.Tree
import ApiTypes.Output.Check

/-!
# Writing the output file

A file is written all or nothing: its content goes to a temporary file in the same
directory, is checked there, and the temporary file then takes the place of the output
file (`ApiTypes.Output.write`). A content with surrogates cannot be written at all. When
anything fails, the temporary file is removed and the output file is as it was; only the
directories on the way to it may have been made. The name of the temporary file is longer
than that of the output file, so that it can be too long where the latter is not
(`ApiTypes.Output.TemporaryFits`). It is measured as the output file is named: in full, as
the command names it, or from the working directory.
`ApiTypes.Output.writeIfMissing` does so only where nothing is yet.
`ApiTypes.Output.overwrite` writes into the file itself, without a check.
-/

namespace ApiTypes.Output

/-- The name of the `n`-th temporary file for an output file. -/
def temporaryName (name : Text) (n : Nat) : Text :=
  '.' :: (name ++ '.' :: (Text.zeroFill 8 (Text.ofNat n) ++ ['.', 't', 'm', 'p']))

/-- The path of a temporary file in a directory: the first one that is not taken, from the
`n`-th one on through `fuel` of them. -/
def temporaryPath (tree : FileTree) (directory : Path) (name : Text) : Nat → Nat → Path
  | 0, n => directory ++ [temporaryName name n]
  | fuel + 1, n =>
    let p := directory ++ [temporaryName name n]
    if (tree.find? p).isSome then temporaryPath tree directory name fuel (n + 1) else p

/-- The name of the first temporary file for an output file. It is in the same directory, and
its double dots are taken back. -/
def temporaryFor (name : PathName) : PathName :=
  { name with steps := PathName.fold [] name.parent.steps ++ [temporaryName name.name 0] }

/-- **A temporary file fits beside an output file**: neither its own name nor its whole path
is too long. -/
def TemporaryFits (name : PathName) : Prop :=
  FileTree.nameSize (temporaryName name.name 0) ≤ FileTree.longestName ∧
    FileTree.nameSize (temporaryFor name).text ≤ FileTree.longestPath

instance : DecidablePred TemporaryFits := fun _ => inferInstanceAs (Decidable (_ ∧ _))

/-- A temporary file for `name`, with its content. -/
def makeTemporary (tree : FileTree) (name : PathName) (content : Text) :
    Except FileError (Path × FileTree) := do
  let directory ← tree.locate name.parent
  if name.hasNull then throw .embeddedNull
  if ¬TemporaryFits name then throw .nameTooLong
  let p := temporaryPath tree directory name.name (tree.entries.length + 1) 0
  return (p, tree.put p (.file (Text.encodeUtf8 content)))

/-- Moves a temporary file to the output file. -/
def replace (tree : FileTree) (temporary : Path) (name : PathName) : Except FileError FileTree := do
  if name.steps = [] ∨ name.name = PathName.up then throw .busy
  let p ← tree.locate name
  match tree.find? temporary, tree.find? p with
  | _, some .directory => .error .isDirectory
  | some e, _ => .ok ((tree.erase temporary).put p e)
  | none, _ => .error .notFound

/-- **What has become of a file that was to be written.** -/
structure Written where
  /-- Whether the file is written, and if not, why. -/
  result : Except Failure Unit
  /-- The tree afterwards. -/
  tree : FileTree
  /-- Whether the content came to its check. -/
  checked : Bool := false

/-- **Writing a file all or nothing**, after the check `check?` of its content if there is
one. -/
def write (check? : Option (Text → Except Failure Unit)) (tree : FileTree) (name : PathName)
    (content : Text) : Written :=
  match tree.makeDirectories name.parent with
  | (.error (e, place), tree) => { result := .error (.file e place.text), tree }
  | (.ok (), tree) =>
    match makeTemporary tree name content with
    | .error e => { result := .error (.file e name.text), tree }
    | .ok (temporary, staged) =>
      match Text.surrogates? content with
      | some run => { result := .error (.unencodable run), tree := staged.erase temporary }
      | none =>
        let verdict := match check? with
          | some check => check content
          | none => .ok ()
        match verdict with
        | .error e =>
          { result := .error e, tree := staged.erase temporary, checked := check?.isSome }
        | .ok () =>
          match replace staged temporary name with
          | .error e =>
            { result := .error (.file e name.text), tree := staged.erase temporary,
              checked := check?.isSome }
          | .ok tree => { result := .ok (), tree, checked := check?.isSome }

/-- **Writing a file where there is none.** -/
def writeIfMissing (check? : Option (Text → Except Failure Unit)) (tree : FileTree)
    (name : PathName) (content : Text) : Written :=
  match tree.exists name with
  | .error e => { result := .error (.file e name.text), tree }
  | .ok true => { result := .error (.outputExists name.text), tree }
  | .ok false => write check? tree name content

/-- **Writing into a file itself**, in a directory that is there. -/
def overwrite (tree : FileTree) (name : PathName) (content : Text) : Except FileError FileTree := do
  let p ← tree.locate name
  match tree.find? p with
  | some .directory => .error .isDirectory
  | _ => .ok (tree.put p (.file (Text.encodeUtf8 content)))

end ApiTypes.Output
