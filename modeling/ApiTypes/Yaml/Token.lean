import ApiTypes.Text.Utf8
import ApiTypes.Yaml.Scalar

/-!
# Tokens

The tokens of a YAML text, in which the nesting by indentation is made explicit: where a
block begins and ends there is a token of its own.

A key of a mapping need not be marked. Whether a scalar, an alias or a flow collection is
a key shows only at the colon behind it, which has to be on the same line and not too far
away. So each place at which a key may have begun is kept (`ApiTypes.Yaml.SimpleKey`),
one for each level of flow collections, and the token that marks the key is put in at
that place when the colon comes.

`ApiTypes.Yaml.tokens` gives the tokens of a text up to its end, or up to the first
place at which there is no token, together with what is wrong there. In that case the
tokens at which a key may have begun, and those behind them, are left out: whether the
mark of a key stands in front of them is not known (`ApiTypes.Yaml.Lexer.settled`).
-/

namespace ApiTypes.Yaml

/-- **A token.** -/
inductive Token where
  /-- A directive that names the version of YAML. -/
  | version (major minor : Nat)
  /-- A directive that defines a tag handle. -/
  | tagHandle (handle expansion : Text)
  /-- Any other directive. -/
  | directive
  /-- The mark at the start of a document. -/
  | documentStart
  /-- The mark at the end of a document. -/
  | documentEnd
  /-- The end of the text. -/
  | streamEnd
  /-- The start of a sequence by indentation. -/
  | blockSequenceStart
  /-- The start of a mapping by indentation. -/
  | blockMappingStart
  /-- The end of a block. -/
  | blockEnd
  /-- An opening bracket. -/
  | flowSequenceStart
  /-- A closing bracket. -/
  | flowSequenceEnd
  /-- An opening brace. -/
  | flowMappingStart
  /-- A closing brace. -/
  | flowMappingEnd
  /-- The mark of an item of a sequence. -/
  | blockEntry
  /-- A comma in a flow collection. -/
  | flowEntry
  /-- The mark of a key. -/
  | key
  /-- The mark of a value. -/
  | value
  /-- A reference to an anchor. -/
  | alias (name : Text)
  /-- The name of a node. -/
  | anchor (name : Text)
  /-- The tag of a node: a handle, unless the tag is complete, and what follows it. -/
  | tag (handle : Option Text) (suffix : Text)
  /-- A scalar, and whether it is a plain one. -/
  | scalar (plain : Bool) (text : Text)
deriving DecidableEq, Repr

/-- **A place at which a key may have begun.** -/
structure SimpleKey where
  /-- The number of tokens in front of it. -/
  token : Nat
  /-- Whether there has to be a key, by the indentation. -/
  required : Bool
  /-- The number of characters in front of it. -/
  index : Nat
  /-- Its line. -/
  line : Nat
  /-- Its column. -/
  column : Nat

/-- Whether a place is on another line than `c`, or too far away from it, for a key to have
begun there. -/
def SimpleKey.isStale (k : SimpleKey) (c : Cursor) : Bool :=
  k.line ≠ c.line ∨ 1024 < c.index - k.index

/-- **The tokens so far**, and what the next ones depend on. -/
structure Lexer where
  /-- The tokens so far, the latest first. -/
  tokens : List Token := []
  /-- The number of the tokens so far. -/
  count : Nat := 0
  /-- The number of flow collections around. -/
  flow : Nat := 0
  /-- The indentation of the innermost block. -/
  indent : Int := -1
  /-- The indentations of the blocks around it. -/
  indents : List Int := []
  /-- Whether a key may begin here. -/
  keyAllowed : Bool := true
  /-- The places at which a key may have begun, by the number of flow collections around. -/
  keys : List (Nat × SimpleKey) := []

namespace Lexer

/-- One more token. -/
def push (l : Lexer) (t : Token) : Lexer := { l with tokens := t :: l.tokens, count := l.count + 1 }

/-- One more token, in front of the token at `place`. -/
def insert (l : Lexer) (place : Nat) (t : Token) : Lexer :=
  { l with tokens := l.tokens.insertIdx (l.count - place) t, count := l.count + 1 }

/-- The place at which a key may have begun on this level. -/
def key? (l : Lexer) : Option SimpleKey := l.keys.lookup l.flow

/-- The lexer without the key of this level. -/
def dropKey (l : Lexer) : Lexer := { l with keys := l.keys.filter (·.1 ≠ l.flow) }

/-- Gives up the key of this level, which must not be a required one. -/
def removeKey (l : Lexer) : Except Failure Lexer :=
  match l.key? with
  | some k => if k.required then .error .unparsable else .ok l.dropKey
  | none => .ok l

/-- Keeps the place here as one at which a key may begin. -/
def saveKey (l : Lexer) (c : Cursor) : Except Failure Lexer :=
  if l.keyAllowed then do
    let l ← l.removeKey
    let k : SimpleKey :=
      { token := l.count, required := l.flow = 0 ∧ l.indent = c.column, index := c.index,
        line := c.line, column := c.column }
    .ok { l with keys := (l.flow, k) :: l.keys }
  else .ok l

/-- Gives up the keys that are on another line or too far away. -/
def dropStaleKeys (l : Lexer) (c : Cursor) : Except Failure Lexer :=
  if l.keys.any fun k => k.2.isStale c && k.2.required then .error .unparsable
  else .ok { l with keys := l.keys.filter fun k => !k.2.isStale c }

/-- **The tokens that are settled** at a place: those in front of the first one at which a
key may have begun. -/
def settled (l : Lexer) (c : Cursor) : List Token :=
  match ((l.keys.filter fun k => !k.2.isStale c).map (·.2.token)).min? with
  | some n => l.tokens.reverse.take n
  | none => l.tokens.reverse

/-- Closes the blocks that are indented by more than `column`; the list holds the
indentations of the blocks around the innermost one. -/
def closeBlocks (column : Int) : List Int → Lexer → Lexer
  | [], l => l
  | outer :: rest, l =>
    if column < l.indent then
      closeBlocks column rest { l.push .blockEnd with indent := outer, indents := rest }
    else l

/-- Closes the blocks that are indented by more than `column`; inside of flow collections
the indentation does not matter. -/
def unwind (l : Lexer) (column : Int) : Lexer :=
  if l.flow ≠ 0 then l else closeBlocks column l.indents l

/-- Opens a block at `column`, with the token `t` in front of the token at `place`, if the
column is further in than the innermost block. -/
def openBlock (l : Lexer) (column : Nat) (place : Nat) (t : Token) : Lexer :=
  if l.indent < column then
    { l.insert place t with indent := column, indents := l.indent :: l.indents }
  else l

end Lexer

/-! ### Directives, anchors and tags -/

/-- A number in a version. -/
def versionNumber (c : Cursor) : Except Failure (Nat × Cursor) :=
  let ds := c.run Char.isDigit
  if ds = [] then .error .unparsable else .ok (Text.digitsValue ds, c.skip ds.length)

/-- The version that a directive names. -/
def versionValue (c : Cursor) : Except Failure (Token × Cursor) := do
  let (major, c) ← versionNumber c.skipSpaces
  if c.peek ≠ some '.' then throw .unparsable
  let (minor, c) ← versionNumber c.advance
  if !endsName c.peek then throw .unparsable
  .ok (.version major minor, c)

/-- Whether a character may stand in a tag. -/
def isUriChar (c : Char) : Bool :=
  c.isAlphanum ∨ c ∈ ['-', ';', '/', '?', ':', '@', '&', '=', '+', '$', ',', '_', '.', '!', '~',
    '*', '\'', '(', ')', '[', ']', '%']

/-- The bytes of the escapes here. -/
def uriEscapes (bytes : List UInt8) (c : Cursor) : Except Failure (Step (List UInt8)) :=
  match c.rest with
  | '%' :: a :: b :: _ =>
    match Text.hexValue? a, Text.hexValue? b with
    | some x, some y => .ok (.more (bytes ++ [(16 * x + y).toUInt8]) (c.skip 3))
    | _, _ => .error .unparsable
  | '%' :: _ => .error .unparsable
  | _ => .ok (.done bytes c)

/-- One more part of a tag: a character, or escapes that together are some characters. -/
def uriStep (read : Text) (c : Cursor) : Except Failure (Step Text) :=
  match c.peek with
  | some '%' => do
    let (bytes, c) ← iterate uriEscapes [] c
    match Text.decodeUtf8 bytes with
    | .ok t => .ok (.more (read ++ t) c)
    | .error _ => .error .unparsable
  | some ch => .ok (if isUriChar ch then .more (read ++ [ch]) c.advance else .done read c)
  | none => .ok (.done read c)

/-- The part of a tag behind its handle, which is not empty. -/
def uri (c : Cursor) : Except Failure (Text × Cursor) := do
  let (read, c') ← iterate uriStep [] c
  if c'.index = c.index then .error .unparsable else .ok (read, c')

/-- The handle of a tag. -/
def handle (c : Cursor) : Except Failure (Text × Cursor) :=
  if c.peek ≠ some '!' then .error .unparsable
  else if c.peekAt 1 = some ' ' then .ok (['!'], c.advance)
  else
    let name := c.advance.run isNameChar
    if c.peekAt (name.length + 1) = some '!' then
      .ok ('!' :: (name ++ ['!']), c.skip (name.length + 2))
    else .error .unparsable

/-- The tag handle that a directive defines. -/
def handleValue (c : Cursor) : Except Failure (Token × Cursor) := do
  let (name, c) ← handle c.skipSpaces
  if c.peek ≠ some ' ' then throw .unparsable
  let (expansion, c) ← uri c.skipSpaces
  if !endsName c.peek then throw .unparsable
  .ok (.tagHandle name expansion, c)

/-- A directive, whose mark is here. -/
def directive (c : Cursor) : Except Failure (Token × Cursor) := do
  let c := c.advance
  let name := c.run isNameChar
  let c := c.skip name.length
  if name = [] ∨ !endsName c.peek then throw .unparsable
  let (t, c) ←
    if name = ['Y', 'A', 'M', 'L'] then versionValue c
    else if name = ['T', 'A', 'G'] then handleValue c
    else pure (.directive, c.skip c.lineRun.length)
  .ok (t, ← ignoredLine c)

/-- The name behind the mark of an anchor or of an alias. -/
def anchorName (c : Cursor) : Except Failure (Text × Cursor) :=
  let c := c.advance
  let name := c.run isNameChar
  let c := c.skip name.length
  if name ≠ [] ∧ (endsWord c.peek ∨ c.peek.any (· ∈ ['?', ':', ',', ']', '}', '%', '@', '`'])) then
    .ok (name, c)
  else .error .unparsable

/-- Whether there is a second exclamation mark before the end of a tag. -/
def hasHandle (c : Cursor) : Bool :=
  '!' ∈ c.advance.run fun ch => !endsName (some ch)

/-- A tag, whose mark is here. -/
def tag (c : Cursor) : Except Failure (Token × Cursor) := do
  let (t, c) ←
    if c.peekAt 1 = some '<' then do
      let (suffix, c) ← uri (c.skip 2)
      if c.peek ≠ some '>' then throw .unparsable
      pure (Token.tag none suffix, c.advance)
    else if endsWord (c.peekAt 1) then pure (Token.tag none ['!'], c.advance)
    else do
      let (name, c) ← if hasHandle c then handle c else pure (['!'], c.advance)
      let (suffix, c) ← uri c
      pure (Token.tag (some name) suffix, c)
  if endsName c.peek then .ok (t, c) else .error .unparsable

/-! ### One token -/

/-- The place of the next token, behind white space and comments. A key may begin on a new
line outside of flow collections. -/
def skipToToken (l : Lexer) (c : Cursor) : Except Failure (Step Lexer) :=
  match c.skipSpaces.skipComment.takeBreak with
  | (some _, c) => .ok (.more { l with keyAllowed := l.keyAllowed || l.flow = 0 } c)
  | (none, c) => .ok (.done l c)

/-- A token that stands for itself in front of a document or behind it. -/
def documentToken (l : Lexer) : Except Failure Lexer := do
  let l ← (l.unwind (-1)).removeKey
  .ok { l with keyAllowed := false }

/-- A token that may be the start of a key, read by `scan`. -/
def contentToken (l : Lexer) (c : Cursor) (scan : Except Failure (Token × Cursor)) :
    Except Failure (Lexer × Cursor) := do
  let l ← l.saveKey c
  let (t, c) ← scan
  .ok ({ l with keyAllowed := false }.push t, c)

/-- The start of a flow collection. -/
def flowStart (l : Lexer) (c : Cursor) (t : Token) : Except Failure (Lexer × Cursor) := do
  let l ← l.saveKey c
  .ok ({ l with flow := l.flow + 1, keyAllowed := true }.push t, c.advance)

/-- The end of a flow collection. -/
def flowEnd (l : Lexer) (c : Cursor) (t : Token) : Except Failure (Lexer × Cursor) := do
  let l ← l.removeKey
  .ok ({ l with flow := l.flow - 1, keyAllowed := false }.push t, c.advance)

/-- The mark of an item of a sequence, which may open a block. -/
def entryToken (l : Lexer) (c : Cursor) : Except Failure (Lexer × Cursor) := do
  if l.flow = 0 ∧ !l.keyAllowed then throw .unparsable
  let l := if l.flow = 0 then l.openBlock c.column l.count .blockSequenceStart else l
  let l ← { l with keyAllowed := true }.removeKey
  .ok (l.push .blockEntry, c.advance)

/-- The mark of a key, which may open a block. -/
def keyToken (l : Lexer) (c : Cursor) : Except Failure (Lexer × Cursor) := do
  if l.flow = 0 ∧ !l.keyAllowed then throw .unparsable
  let l := if l.flow = 0 then l.openBlock c.column l.count .blockMappingStart else l
  let l ← { l with keyAllowed := l.flow = 0 }.removeKey
  .ok (l.push .key, c.advance)

/-- The mark of a value. If a key may have begun on this level, it has, and its mark is put
in where it began; that may open a block as well. -/
def valueToken (l : Lexer) (c : Cursor) : Except Failure (Lexer × Cursor) :=
  match l.key? with
  | some k =>
    let l := l.dropKey.insert k.token .key
    let l := if l.flow = 0 then l.openBlock k.column k.token .blockMappingStart else l
    .ok ({ l with keyAllowed := false }.push .value, c.advance)
  | none => do
    if l.flow = 0 ∧ !l.keyAllowed then throw .unparsable
    let l := if l.flow = 0 then l.openBlock c.column l.count .blockMappingStart else l
    let l ← { l with keyAllowed := l.flow = 0 }.removeKey
    .ok (l.push .value, c.advance)

/-- A block scalar, behind which a key may begin. -/
def blockToken (l : Lexer) (folded : Bool) (c : Cursor) : Except Failure (Lexer × Cursor) := do
  let l ← { l with keyAllowed := true }.removeKey
  let (t, c) ← blockScalar folded l.indent c
  .ok (l.push (.scalar false t), c)

/-- A plain scalar, behind which a key may begin if it ends at the start of a line. -/
def plainToken (l : Lexer) (c : Cursor) : Except Failure (Lexer × Cursor) := do
  let l ← l.saveKey c
  let (t, broken, c) ← plainScalar (l.flow ≠ 0) (l.indent + 1) c
  .ok ({ l with keyAllowed := broken }.push (.scalar true t), c)

/-- The characters with which no plain scalar begins. -/
def indicators : List Char :=
  ['-', '?', ':', ',', '[', ']', '{', '}', '#', '&', '*', '!', '|', '>', '\'', '"', '%', '@', '`']

/-- Whether a plain scalar begins with a character, given the one behind it. -/
def startsPlain (flow : Bool) (ch : Char) (next : Option Char) : Bool :=
  !(endsWord (some ch) || ch ∈ indicators) ||
    (!endsWord next && (ch = '-' || (!flow && (ch = '?' || ch = ':'))))

/-- The token that begins with the character `ch` here. -/
def tokenAt (l : Lexer) (ch : Char) (c : Cursor) : Except Failure (Lexer × Cursor) :=
  let flow : Bool := l.flow ≠ 0
  let next := c.peekAt 1
  if ch = '%' ∧ c.column = 0 then do
    let l ← documentToken l
    let (t, c) ← directive c
    .ok (l.push t, c)
  else if c.column = 0 ∧ c.isMark '-' then
    (documentToken l).map fun l => (l.push .documentStart, c.skip 3)
  else if c.column = 0 ∧ c.isMark '.' then
    (documentToken l).map fun l => (l.push .documentEnd, c.skip 3)
  else if ch = '[' then flowStart l c .flowSequenceStart
  else if ch = '{' then flowStart l c .flowMappingStart
  else if ch = ']' then flowEnd l c .flowSequenceEnd
  else if ch = '}' then flowEnd l c .flowMappingEnd
  else if ch = ',' then do
    let l ← { l with keyAllowed := true }.removeKey
    .ok (l.push .flowEntry, c.advance)
  else if ch = '-' ∧ endsWord next then entryToken l c
  else if ch = '?' ∧ (flow ∨ endsWord next) then keyToken l c
  else if ch = ':' ∧ (flow ∨ endsWord next) then valueToken l c
  else if ch = '*' then contentToken l c ((anchorName c).map fun r => (.alias r.1, r.2))
  else if ch = '&' then contentToken l c ((anchorName c).map fun r => (.anchor r.1, r.2))
  else if ch = '!' then contentToken l c (tag c)
  else if ch = '|' ∧ !flow then blockToken l false c
  else if ch = '>' ∧ !flow then blockToken l true c
  else if ch = '\'' then
    contentToken l c ((quotedScalar false c).map fun r => (.scalar false r.1, r.2))
  else if ch = '"' then
    contentToken l c ((quotedScalar true c).map fun r => (.scalar false r.1, r.2))
  else if startsPlain flow ch next then plainToken l c
  else .error .unparsable

/-- The next token, and whether there are more. -/
def nextToken (l : Lexer) (c : Cursor) : Except Failure (Bool × Lexer × Cursor) := do
  let c := if c.index = 0 ∧ c.peek = some mark then c.advance else c
  let (l, c) ← iterate skipToToken l c
  let l := (← l.dropStaleKeys c).unwind c.column
  match c.peek with
  | none => do
    let l ← (l.unwind (-1)).removeKey
    .ok (false, l.push .streamEnd, c)
  | some ch => do
    let (l, c) ← tokenAt l ch c
    .ok (true, l, c)

/-- One more token, as a step of a loop that ends at the first failure. -/
def tokenStep (s : Lexer × Option Failure) (c : Cursor) :
    Except Failure (Step (Lexer × Option Failure)) :=
  match nextToken s.1 c with
  | .ok (true, l, c) => .ok (.more (l, none) c)
  | .ok (false, l, c) => .ok (.done (l, none) c)
  | .error e => .ok (.done (s.1, some e) c)

/-- **The tokens of a text**, up to what is wrong with it, if anything is. -/
def tokens (t : Text) : List Token × Option Failure :=
  match iterate tokenStep ({}, none) { rest := t } with
  | .ok ((l, none), _) => (l.tokens.reverse, none)
  | .ok ((l, some e), c) => (l.settled c, some e)
  | .error e => ([], some e)

end ApiTypes.Yaml
