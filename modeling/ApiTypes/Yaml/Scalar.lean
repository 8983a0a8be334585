import ApiTypes.Text.Digit
import ApiTypes.Text.Surrogate
import ApiTypes.Yaml.Cursor

/-!
# Scalars

The three ways in which a scalar is written. A plain scalar
(`ApiTypes.Yaml.plainScalar`) ends at a comment, at a colon before white space, or where
its lines are indented too little. A quoted scalar (`ApiTypes.Yaml.quotedScalar`) ends
at its quote; between double quotes there are escapes. A block scalar
(`ApiTypes.Yaml.blockScalar`) takes its lines by their indentation.

In plain and quoted scalars a single line end is read as a space, and of several ones all
but the first are kept; the folded block scalars do the same between lines that do not
start with white space.
-/

namespace ApiTypes.Yaml

/-- Line ends as they are folded: a single line feed is a space, and the first line feed
of several is dropped. -/
def foldBreaks (first : Char) (others : Text) : Text :=
  if first ≠ '\n' then first :: others
  else if others = [] then [' '] else others

/-! ### Plain scalars -/

/-- Whether a plain scalar ends at a character, given the one behind it. -/
def endsPlain (flow : Bool) (ch : Char) (next : Option Char) : Bool :=
  endsWord (some ch) ||
    (ch = ':' && (endsWord next || (flow && next.any (· ∈ [',', '[', ']', '{', '}'])))) ||
    (flow && ch ∈ [',', '?', '[', ']', '{', '}'])

/-- The part of a plain scalar that stands here without white space. -/
def plainRun (flow : Bool) : Text → Text
  | [] => []
  | ch :: rest => if endsPlain flow ch rest.head? then [] else ch :: plainRun flow rest

/-- The line ends between two parts of a plain scalar; nothing where the document ends. -/
def plainBreaks : Option Text → Cursor → Except Failure (Step (Option Text)) :=
  fun state c =>
    match state, c.peek with
    | some breaks, some ch =>
      if ch = ' ' then .ok (.more state c.advance)
      else
        match c.takeBreak with
        | (some b, c) =>
          if c.isSeparator then .ok (.done none c) else .ok (.more (some (breaks ++ [b])) c)
        | (none, c) => .ok (.done state c)
    | _, _ => .ok (.done state c)

/-- What is between two parts of a plain scalar. -/
structure Gap where
  /-- Its text; nothing if the scalar ends there. -/
  text : Option Text
  /-- Whether a line ends in it. -/
  broken : Bool

/-- The gap behind a part of a plain scalar. -/
def plainGap (c : Cursor) : Except Failure (Gap × Cursor) :=
  let spaces := c.run (· = ' ')
  let c := c.skip spaces.length
  match c.takeBreak with
  | (some first, c) =>
    if c.isSeparator then .ok (⟨none, true⟩, c)
    else do
      let (breaks, c) ← iterate plainBreaks (some []) c
      .ok (⟨breaks.map (foldBreaks first), true⟩, c)
  | (none, c) => .ok (⟨if spaces = [] then none else some spaces, false⟩, c)

/-- A plain scalar as far as it is read. -/
structure PlainState where
  /-- What is read. -/
  read : Text := []
  /-- The gap behind it. -/
  gap : Text := []
  /-- Whether a line ends in that gap. -/
  broken : Bool := false

/-- One more part of a plain scalar. -/
def plainStep (flow : Bool) (indent : Int) (s : PlainState) (c : Cursor) :
    Except Failure (Step PlainState) :=
  let part := plainRun flow c.rest
  if c.peek = some '#' ∨ part = [] then .ok (.done s c)
  else do
    let (gap, c) ← plainGap (c.skip part.length)
    let read := s.read ++ s.gap ++ part
    match gap.text with
    | none => .ok (.done { read, broken := gap.broken } c)
    | some t =>
      let s : PlainState := { read, gap := t, broken := gap.broken }
      if c.peek = some '#' ∨ (!flow ∧ (c.column : Int) < indent) then .ok (.done s c)
      else .ok (.more s c)

/-- **A plain scalar**, whose further lines are indented by `indent` at least: its text,
whether it ends at the start of a line, and the place behind it. -/
def plainScalar (flow : Bool) (indent : Int) (c : Cursor) :
    Except Failure (Text × Bool × Cursor) := do
  let (s, c) ← iterate (plainStep flow indent) {} c
  .ok (s.read, s.broken, c)

/-! ### Quoted scalars -/

/-- The code point of a letter behind a backslash. -/
def escape? : Char → Option Nat
  | '0' => some 0x00
  | 'a' => some 0x07
  | 'b' => some 0x08
  | 't' | '\t' => some 0x09
  | 'n' => some 0x0a
  | 'v' => some 0x0b
  | 'f' => some 0x0c
  | 'r' => some 0x0d
  | 'e' => some 0x1b
  | ' ' => some 0x20
  | '"' => some 0x22
  | '\\' => some 0x5c
  | '/' => some 0x2f
  | 'N' => some 0x85
  | '_' => some 0xa0
  | 'L' => some 0x2028
  | 'P' => some 0x2029
  | _ => none

/-- The number of hexadecimal digits behind a letter behind a backslash. -/
def escapeWidth? : Char → Option Nat
  | 'x' => some 2
  | 'u' => some 4
  | 'U' => some 8
  | _ => none

/-- The line ends inside of a quoted scalar, behind those read. -/
def quotedBreaks (breaks : Text) (c : Cursor) : Except Failure (Step Text) :=
  if c.isSeparator then .error .unparsable
  else
    match (c.skipRun fun ch => ch = ' ' ∨ ch = '\t').takeBreak with
    | (some b, c) => .ok (.more (breaks ++ [b]) c)
    | (none, c) => .ok (.done breaks c)

/-- The code points of an escape behind its backslash, and the place behind it. -/
def escapePoints (c : Cursor) : Except Failure (List Nat × Cursor) :=
  match c.peek with
  | none => .error .unparsable
  | some ch =>
    match escape? ch, escapeWidth? ch with
    | some u, _ => .ok ([u], c.advance)
    | none, some width =>
      let c := c.advance
      let ds := c.rest.take width
      if ds.length < width ∨ !ds.all fun d => (Text.hexValue? d).isSome then .error .unparsable
      else
        let n := Text.baseValue 16 ds
        if 0x110000 ≤ n then .error (.noCodePoint n) else .ok ([n], c.skip width)
    | none, none =>
      match c.takeBreak with
      | (some _, c) => do
        let (breaks, c) ← iterate quotedBreaks [] c
        .ok (breaks.map (·.toNat), c)
      | (none, _) => .error .unparsable

/-- One more character of a quoted scalar, behind the code points read, which are given in
reverse. -/
def quotedStep (double : Bool) (read : List Nat) (c : Cursor) :
    Except Failure (Step (List Nat)) :=
  match c.peek with
  | none => .ok (.done read c)
  | some ch =>
    if endsWord (some ch) then .ok (.done read c)
    else if double then
      if ch = '"' then .ok (.done read c)
      else if ch = '\\' then do
        let (points, c) ← escapePoints c.advance
        .ok (.more (points.reverse ++ read) c)
      else .ok (.more (ch.toNat :: read) c.advance)
    else if ch = '\'' then
      if c.peekAt 1 = some '\'' then .ok (.more (ch.toNat :: read) (c.skip 2))
      else .ok (.done read c)
    else .ok (.more (ch.toNat :: read) c.advance)

/-- The white space between two parts of a quoted scalar. -/
def quotedGap (c : Cursor) : Except Failure (Text × Cursor) :=
  let spaces := c.run fun ch => ch = ' ' ∨ ch = '\t'
  let c := c.skip spaces.length
  match c.peek with
  | none => .error .unparsable
  | some _ =>
    match c.takeBreak with
    | (some first, c) => do
      let (breaks, c) ← iterate quotedBreaks [] c
      .ok (foldBreaks first breaks, c)
    | (none, c) => .ok (spaces, c)

/-- One more gap of a quoted scalar, and the part behind it. -/
def quotedPart (double : Bool) (read : List Nat) (c : Cursor) :
    Except Failure (Step (List Nat)) :=
  if c.peek = some (if double then '"' else '\'') then .ok (.done read c)
  else do
    let (gap, c) ← quotedGap c
    let (read, c) ← iterate (quotedStep double) ((gap.map (·.toNat)).reverse ++ read) c
    .ok (.more read c)

/-- **A quoted scalar**, whose quote is here: its text, and the place behind it. -/
def quotedScalar (double : Bool) (c : Cursor) : Except Failure (Text × Cursor) := do
  let (read, c) ← iterate (quotedStep double) [] c.advance
  let (read, c) ← iterate (quotedPart double) read c
  .ok (read.reverse.map Text.ofCodePoint, c.advance)

/-! ### Block scalars -/

/-- What becomes of the line ends behind a block scalar. -/
inductive Chomping where
  /-- The first one is kept. -/
  | clip
  /-- All are dropped. -/
  | strip
  /-- All are kept. -/
  | keep

/-- A sign for the line ends behind a block scalar. -/
def chomping? : Option Char → Option Chomping
  | some '+' => some .keep
  | some '-' => some .strip
  | _ => none

/-- A digit for the indentation of a block scalar. -/
def increment? (ch : Option Char) : Option Nat :=
  ch.bind fun ch => if ch.isDigit then some (ch.toNat - '0'.toNat) else none

/-- The signs behind the mark of a block scalar: for the line ends and for the
indentation, in any order. -/
def blockIndicators (c : Cursor) : Except Failure (Chomping × Option Nat × Cursor) :=
  let result : Chomping × Option Nat × Cursor :=
    match chomping? c.peek with
    | some k =>
      match increment? c.advance.peek with
      | some n => (k, some n, c.skip 2)
      | none => (k, none, c.advance)
    | none =>
      match increment? c.peek with
      | some n =>
        match chomping? c.advance.peek with
        | some k => (k, some n, c.skip 2)
        | none => (.clip, some n, c.advance)
      | none => (.clip, none, c)
  if result.2.1 = some 0 ∨ !endsName result.2.2.peek then .error .unparsable else .ok result

/-- The place behind a line on which there may only be a comment from here on. -/
def ignoredLine (c : Cursor) : Except Failure Cursor :=
  let c := c.skipSpaces.skipComment
  if endsLine c.peek then .ok c.takeBreak.2 else .error .unparsable

/-- The blank lines in front of a block scalar, and the widest indentation on them. -/
def blockIndentation (s : Text × Nat) (c : Cursor) : Except Failure (Step (Text × Nat)) :=
  if c.peek = some ' ' then .ok (.more (s.1, max s.2 c.advance.column) c.advance)
  else
    match c.takeBreak with
    | (some b, c) => .ok (.more (s.1 ++ [b], s.2) c)
    | (none, c) => .ok (.done s c)

/-- The place behind the spaces here, up to a column. -/
def skipIndent (indent : Nat) (c : Cursor) : Cursor :=
  c.skip (min (c.run (· = ' ')).length (indent - c.column))

/-- The blank lines inside of a block scalar. -/
def blockBreaks (indent : Nat) (breaks : Text) (c : Cursor) : Except Failure (Step Text) :=
  match c.takeBreak with
  | (some b, c) => .ok (.more (breaks ++ [b]) (skipIndent indent c))
  | (none, c) => .ok (.done breaks c)

/-- A block scalar as far as it is read. -/
structure BlockState where
  /-- What is read. -/
  read : Text := []
  /-- The end of the last line. -/
  lineEnd : Text := []
  /-- The blank lines behind it. -/
  breaks : Text := []

/-- Whether a line of a block scalar is here. -/
def isBlockLine (indent : Nat) (c : Cursor) : Bool := c.column = indent && c.peek.isSome

/-- Whether white space is here. -/
def isIndented (c : Cursor) : Bool := c.peek = some ' ' || c.peek = some '\t'

/-- One more line of a block scalar. -/
def blockStep (folded : Bool) (indent : Nat) (s : BlockState) (c : Cursor) :
    Except Failure (Step BlockState) :=
  if !isBlockLine indent c then .ok (.done s c)
  else do
    let indented := isIndented c
    let line := c.lineRun
    let (lineEnd, c) := (c.skip line.length).takeBreak
    let (breaks, c) ← iterate (blockBreaks indent) [] (skipIndent indent c)
    let read := s.read ++ s.breaks ++ line
    if isBlockLine indent c then
      let join : Text :=
        if folded ∧ lineEnd = some '\n' ∧ !indented ∧ !isIndented c then
          (if breaks = [] then [' '] else [])
        else lineEnd.toList
      .ok (.more { read := read ++ join, lineEnd := lineEnd.toList, breaks } c)
    else .ok (.done { read, lineEnd := lineEnd.toList, breaks } c)

/-- **A block scalar**, whose mark is here, in a block that is indented by `indent`: its
text, and the place behind it. -/
def blockScalar (folded : Bool) (indent : Int) (c : Cursor) :
    Except Failure (Text × Cursor) := do
  let least := max (indent + 1).toNat 1
  let (chomping, increment, c) ← blockIndicators c.advance
  let c ← ignoredLine c
  let (indent, breaks, c) ← match increment with
    | none => do
      let ((breaks, widest), c) ← iterate blockIndentation ([], 0) c
      pure (max least widest, breaks, c)
    | some n => do
      let indent := least + n - 1
      let (breaks, c) ← iterate (blockBreaks indent) [] (skipIndent indent c)
      pure (indent, breaks, c)
  let (s, c) ← iterate (blockStep folded indent) { breaks } c
  let tail : Text := match chomping with
    | .clip => s.lineEnd
    | .strip => []
    | .keep => s.lineEnd ++ s.breaks
  .ok (s.read ++ tail, c)

end ApiTypes.Yaml
