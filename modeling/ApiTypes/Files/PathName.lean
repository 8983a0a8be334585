import ApiTypes.Text.Basic

/-!
# Names of paths

A path is named by a text: steps between slashes, from the working directory or, with a
slash in front, from the root of the file system. Empty steps and single dots mean
nothing and are dropped; double dots are kept, since where they lead depends on what is
there. A path from the working directory can also be shown in full, behind the name of
that directory.
-/

namespace ApiTypes

/-- Where a path starts. -/
inductive Origin where
  /-- In the working directory. -/
  | here
  /-- In the working directory, which is shown by its name. -/
  | working (name : Text)
  /-- At the root of the file system. -/
  | root
  /-- At the root of the file system, named by two slashes, which some systems tell from one.
  -/
  | otherRoot
deriving DecidableEq, Repr

/-- **The name of a path.** -/
structure PathName where
  /-- Where the path starts. -/
  origin : Origin
  /-- The steps of the path. -/
  steps : List Text
deriving DecidableEq, Repr

namespace PathName

/-- The step to the directory above. -/
def up : Text := ['.', '.']

/-- The steps in a text. -/
def stepsOf (t : Text) : List Text :=
  (Text.split '/' t).filter fun s => s ≠ [] ∧ s ≠ ['.']

/-- Where the path that a text names starts. -/
def originOf : Text → Origin
  | '/' :: '/' :: '/' :: _ => .root
  | '/' :: '/' :: _ => .otherRoot
  | '/' :: _ => .root
  | _ => .here

/-- The path that a text names. -/
def ofText (t : Text) : PathName where
  origin := originOf t
  steps := stepsOf t

/-- **The text of a path.** -/
def text (p : PathName) : Text :=
  match p.origin with
  | .here => if p.steps = [] then ['.'] else Text.join ['/'] p.steps
  | .working name => if p.steps = [] then name else name ++ '/' :: Text.join ['/'] p.steps
  | .root => '/' :: Text.join ['/'] p.steps
  | .otherRoot => '/' :: '/' :: Text.join ['/'] p.steps

/-- The path of the directory that a path is in. -/
def parent (p : PathName) : PathName := { p with steps := p.steps.dropLast }

/-- The last step of a path. -/
def name (p : PathName) : Text := p.steps.getLast?.getD []

/-- The steps with every double dot taken back, as far as it goes. -/
def fold : List Text → List Text → List Text
  | done, [] => done
  | done, s :: rest => if s = up then fold done.dropLast rest else fold (done ++ [s]) rest

/-- A path without double dots, shown in full from the working directory `directory`. -/
def inFull (directory : Text) (p : PathName) : PathName where
  origin := match p.origin with
    | .here => .working directory
    | o => o
  steps := fold [] p.steps

/-- A path shown in full from the working directory, its double dots kept. -/
def shown (directory : Text) (p : PathName) : PathName where
  origin := match p.origin with
    | .here => .working directory
    | o => o
  steps := p.steps

/-- Whether a name of a path holds a null character. -/
def hasNull (p : PathName) : Bool := p.steps.any fun s => '\x00' ∈ s

/-- The suffix of a file name: from its last dot on, unless nothing stands in front of
that dot or behind it. -/
def suffix (p : PathName) : Text :=
  let name := p.name
  let after := (name.reverse.takeWhile (· ≠ '.')).reverse
  let before := name.take (name.length - after.length - 1)
  if after.length < name.length ∧ after ≠ [] ∧ before ≠ [] then '.' :: after else []

end PathName

end ApiTypes
