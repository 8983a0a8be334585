import ApiTypes.CommandLine.Run

/-!
# The command

The outer layer of the command: it takes a picture of those files that the arguments and
the settings name, lets `ApiTypes.CommandLine.run` do the work, prints what was printed,
and writes the files that are new or have changed. Paths lead from the working directory.
The command starts no other programs, so to it the formatter is always missing.
-/

namespace ApiTypes.Command

/-- All bytes of a stream. -/
partial def readAll (stream : IO.FS.Stream) (read : ByteArray) : IO ByteArray := do
  let bytes ← stream.read 65536
  if bytes.isEmpty then return read else readAll stream (read ++ bytes)

/-- The text of a path in the working directory. -/
def nameOf (p : Path) : String := String.ofList (Text.join ['/'] p)

/-- What is at a path. -/
def look (p : Path) : IO (Option Entry) := do
  let place := (← IO.currentDir) / nameOf p
  if ← place.isDir then return some .directory
  if ← place.pathExists then return some (.file (← IO.FS.readBinFile place).toList)
  return none

/-- The tree with what is on the way to a path, and at it. -/
def picture (tree : FileTree) (path : Text) : IO FileTree := do
  let steps := PathName.fold [] (PathName.ofText path).steps
  let mut tree := tree
  for n in List.range steps.length do
    let p := steps.take (n + 1)
    if let some entry ← look p then tree := tree.put p entry
  return tree

/-- The path that the settings name for the settings of the formatter. -/
def formatterConfig? (directory : Text) (tree : FileTree) (o : CommandLine.Options) :
    Option Text :=
  match CommandLine.settings directory tree o with
  | .ok { formatter := .known { configPath := .str path, .. }, .. } => some path.toList
  | _ => none

/-- Writes what is new or has changed. -/
def writeChanges (before after : FileTree) : IO Unit := do
  let directory ← IO.currentDir
  for (p, entry) in after.entries do
    if before.find? p ≠ some entry then
      match entry with
      | .directory => IO.FS.createDirAll (directory / nameOf p)
      | .file bytes => IO.FS.writeBinFile (directory / nameOf p) ⟨bytes.toArray⟩

/-- A picture of the files that some arguments name. -/
def pictureOf (directory : Text) (arguments : List Text) : IO FileTree := do
  match CommandLine.read arguments with
  | .error _ => return .empty
  | .ok (choices, names) =>
    let o := CommandLine.Options.ofChoices choices
    let mut tree := FileTree.empty
    for path in o.output.toList ++ o.config.toList ++ names.take 1 do
      tree ← picture tree path
    match formatterConfig? directory tree o with
    | some path => picture tree path
    | none => return tree

/-- The standard input, if the arguments say that the document comes from there. -/
def inputOf (directory : Text) (tree : FileTree) (arguments : List Text) : IO Text := do
  match CommandLine.readArguments directory tree arguments with
  | .ok (_, source) =>
    if source ≠ Document.standardInput then return []
    let bytes ← readAll (← IO.getStdin) .empty
    match Text.decodeUtf8 bytes.toList with
    | .ok t => return t
    | .error e => throw (IO.userError e.message)
  | .error _ => return []

end ApiTypes.Command

open ApiTypes in
/-- **The command.** -/
def main (arguments : List String) : IO UInt32 := do
  let directory := (toString (← IO.currentDir)).toList
  let arguments := arguments.map String.toList
  let tree ← Command.pictureOf directory arguments
  let input ← Command.inputOf directory tree arguments
  let report := CommandLine.run directory tree input [] arguments
  Command.writeChanges tree report.tree
  (← IO.getStdout).putStr (String.ofList report.output)
  (← IO.getStderr).putStr (String.ofList report.errors)
  if let .broken cause := report.ending then (← IO.getStderr).putStrLn cause.message
  return report.ending.code.toUInt32
