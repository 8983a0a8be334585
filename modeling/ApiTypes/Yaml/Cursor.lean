import ApiTypes.Failure

/-!
# Places in a YAML text

A cursor (`ApiTypes.Yaml.Cursor`) is a place in a text: what is left of it, how many
characters and how many lines are behind, and how far into its line it is. The lines of
YAML end in a line feed, a carriage return, both, a next-line character, a line separator
or a paragraph separator.

Everything that is read in a loop is read with `ApiTypes.Yaml.iterate`, which repeats a
step for as long as the step wants to go on and has moved forward.
-/

namespace ApiTypes.Yaml

/-! ### Characters -/

/-- Whether a character may stand in a YAML text. Surrogates may not. -/
def isAllowed (c : Char) : Bool :=
  let n := Text.codePoint c
  n = 0x09 ∨ n = 0x0a ∨ n = 0x0d ∨ (0x20 ≤ n ∧ n ≤ 0x7e) ∨ n = 0x85 ∨ (0xa0 ≤ n ∧ n ≤ 0xd7ff) ∨
    (0xe000 ≤ n ∧ n ≤ 0xfffd) ∨ (0x10000 ≤ n ∧ n ≤ 0x10ffff)

/-- The byte order mark. -/
def mark : Char := '\ufeff'

/-- Whether a character ends a line. -/
def isBreak (c : Char) : Bool :=
  c = '\n' ∨ c = '\r' ∨ c = '\u0085' ∨ c = '\u2028' ∨ c = '\u2029'

/-- Whether a line ends at a character, or the text does. -/
def endsLine : Option Char → Bool
  | none => true
  | some c => isBreak c

/-- Whether a line ends at a character or a space follows. -/
def endsName (c : Option Char) : Bool := c = some ' ' || endsLine c

/-- Whether a line ends at a character or white space follows. -/
def endsWord (c : Option Char) : Bool := c = some '\t' || endsName c

/-- Whether a character may stand in the name of an anchor, of a directive or of a tag
handle. -/
def isNameChar (c : Char) : Bool := c.isAlphanum ∨ c = '-' ∨ c = '_'

/-! ### Cursors -/

/-- **A place in a text.** -/
structure Cursor where
  /-- The text from here on. -/
  rest : Text
  /-- The number of its characters. -/
  left : Nat := rest.length
  /-- The number of characters behind. -/
  index : Nat := 0
  /-- The number of lines behind. -/
  line : Nat := 0
  /-- The number of characters of the line behind. -/
  column : Nat := 0

namespace Cursor

/-- The character here. -/
def peek (c : Cursor) : Option Char := c.rest.head?

/-- The character `n` places further on. -/
def peekAt (c : Cursor) (n : Nat) : Option Char := c.rest[n]?

/-- The place behind the character here. -/
def advance (c : Cursor) : Cursor :=
  match c.rest with
  | [] => c
  | ch :: rest =>
    let c := { c with rest, left := c.left - 1, index := c.index + 1 }
    if isBreak ch ∧ ¬(ch = '\r' ∧ rest.head? = some '\n') then
      { c with line := c.line + 1, column := 0 }
    else if ch = mark then c
    else { c with column := c.column + 1 }

/-- The place `n` characters further on. -/
def skip (c : Cursor) : Nat → Cursor
  | 0 => c
  | n + 1 => c.advance.skip n

/-- The characters from here on for which `p` holds. -/
def run (p : Char → Bool) (c : Cursor) : Text := c.rest.takeWhile p

/-- The place behind the characters for which `p` holds. -/
def skipRun (p : Char → Bool) (c : Cursor) : Cursor := c.skip (c.run p).length

/-- The place behind the spaces here. -/
def skipSpaces (c : Cursor) : Cursor := c.skipRun (· = ' ')

/-- The rest of the line. -/
def lineRun (c : Cursor) : Text := c.run fun ch => !isBreak ch

/-- The place behind a comment here, if there is one. -/
def skipComment (c : Cursor) : Cursor :=
  if c.peek = some '#' then c.skip c.lineRun.length else c

/-- The line end here as it is read, and the place behind it. All line ends but the two
separators are read as a line feed. -/
def takeBreak (c : Cursor) : Option Char × Cursor :=
  match c.rest with
  | '\r' :: '\n' :: _ => (some '\n', c.skip 2)
  | ch :: _ =>
    if ch = '\u2028' ∨ ch = '\u2029' then (some ch, c.advance)
    else if isBreak ch then (some '\n', c.advance)
    else (none, c)
  | [] => (none, c)

/-- Whether the mark of three characters `ch` is here, as a word of its own. -/
def isMark (ch : Char) (c : Cursor) : Bool :=
  c.rest.take 3 = [ch, ch, ch] && endsWord (c.peekAt 3)

/-- Whether a mark between documents is here. -/
def isSeparator (c : Cursor) : Bool := c.isMark '-' || c.isMark '.'

end Cursor

/-! ### Loops -/

/-- What a step of a loop leads to. -/
inductive Step (σ : Type) where
  /-- The loop is over. -/
  | done (state : σ) (cursor : Cursor)
  /-- The loop goes on. -/
  | more (state : σ) (cursor : Cursor)

/-- **Repeating a step** for as long as it wants to go on and moves forward. -/
def iterate {σ : Type} (step : σ → Cursor → Except Failure (Step σ)) (state : σ)
    (cursor : Cursor) : Except Failure (σ × Cursor) :=
  match step state cursor with
  | .error e => .error e
  | .ok (.done state' cursor') => .ok (state', cursor')
  | .ok (.more state' cursor') =>
    if cursor'.left < cursor.left then iterate step state' cursor' else .ok (state', cursor')
termination_by cursor.left

end ApiTypes.Yaml
