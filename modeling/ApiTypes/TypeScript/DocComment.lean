import ApiTypes.Text.Blank

/-!
# Documentation comments

A description is printed in front of its property as a comment block, one line of the
description to a line of the block. The white space around the description and behind
each of its lines is dropped, and every end marker of a comment inside of it is broken
by a backslash, so that the block ends where it should.
-/

namespace ApiTypes.TypeScript

/-- A description without the white space around it and with its end markers broken. -/
def docText (description : Text) : Text :=
  Text.replacePair '*' '/' ['*', '\\', '/'] (Text.trim description)

/-- The lines of a description, as they are printed. -/
def docLines (description : Text) : List Text :=
  (Text.split '\n' (docText description)).map Text.trimEnd

/-- What stands before each line of a comment block but the first: the end of the line
before it, and the mark of the line. -/
def docMark : Text := ['\n', ' ', ' ', '*', ' ']

/-- **The comment block of a description**, up to the end of its last line. -/
def docComment (description : Text) : Text :=
  ['/', '*', '*'] ++ docMark ++ Text.join docMark (docLines description) ++
    ['\n', ' ', ' ', '*', '/', '\n']

end ApiTypes.TypeScript
