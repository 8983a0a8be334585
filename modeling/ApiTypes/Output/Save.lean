import ApiTypes.Output.Settings
import ApiTypes.Output.Writer

/-!
# Saving the output

The settings of the output choose how the output file is written
(`ApiTypes.Output.save`): all or nothing or into the file itself, over a file that is
there or not. Only what is written all or nothing is checked, and only then does a content
without an encoding leave the file as it was. When the mode is neither of the two, a file
that is there is kept by the former way of writing, and overwritten by the latter.
-/

namespace ApiTypes.Output

/-- Why an output file is left alone: it is there, in the mode in which that is an error, or it
cannot be asked for. -/
def refusal? (settings : Settings) (tree : FileTree) (name : PathName) : Option Failure :=
  if settings.mode = .known .errorIfExists then
    match tree.exists name with
    | .error e => some (.file e name.text)
    | .ok true => some (.outputExists name.text)
    | .ok false => none
  else none

/-- Writes into the output file itself. The file is emptied first, and it stays empty if the
content has no encoding. -/
def saveInPlace (settings : Settings) (tree : FileTree) (name : PathName) (content : Text) :
    Except Failure Unit × FileTree :=
  match refusal? settings tree name with
  | some e => (.error e, tree)
  | none =>
    let encodable := if (Text.surrogates? content).isSome then [] else content
    match overwrite tree name encodable with
    | .error e => (.error (.file e name.text), tree)
    | .ok written =>
      match Text.surrogates? content with
      | some run => (.error (.unencodable run), written)
      | none => (.ok (), written)

/-- Writes the output file all or nothing. -/
def saveAtomically (settings : Settings) (tree : FileTree) (name : PathName) (content : Text) :
    Written :=
  let check? := if settings.validateBeforeWrite.truthy then some check else none
  if settings.mode = .known .force then write check? tree name content
  else writeIfMissing check? tree name content

/-- **Saving the output**, with the tree as it is left behind. -/
def save (settings : Settings) (tree : FileTree) (name : PathName) (content : Text) :
    Except Failure Unit × FileTree :=
  if settings.atomicWrite.truthy then
    let w := saveAtomically settings tree name content
    (w.result, w.tree)
  else saveInPlace settings tree name content

end ApiTypes.Output
