import ApiTypes.Yaml.Node
import ApiTypes.Yaml.Token

/-!
# Reading nodes

The tokens of a document are put together into a graph of nodes. References to an anchor
are replaced by the node of that anchor, which has to end in front of them and must be the
only one of its name. What is missing between the marks of keys, values and items is
an empty scalar.

There has to be exactly one document, or none, and `ApiTypes.Yaml.Graph.ofText?` says
which. The first node of a graph is the content of the document. The readers take the
tokens that are left and the nodes and anchors known so far; their fuel is the number of
the tokens, of which every reader takes one for every two steps at least.
-/

namespace ApiTypes.Yaml

/-- **The tokens that are left**, and what the meaning of the next ones depends on. -/
structure Reader where
  /-- The tokens that are left. -/
  tokens : List Token
  /-- What is wrong behind the last token, if anything is. -/
  failure : Option Failure
  /-- The nodes so far. -/
  graph : Graph := {}
  /-- The names of the anchors. -/
  names : List Text := []
  /-- The numbers of the nodes with an anchor that are complete. -/
  anchors : List (Text × Nat) := []
  /-- The meanings of the tag handles. -/
  handles : List (Text × Text) := []

/-- The work of a reader. -/
abbrev Reading := StateT Reader (Except Failure)

namespace Reading

/-- The next token, which stays. -/
def peek : Reading Token := do
  let r ← get
  match r.tokens with
  | t :: _ => pure t
  | [] => throw (r.failure.getD .unparsable)

/-- Takes the next token. -/
def skip : Reading Unit := modify fun r => { r with tokens := r.tokens.drop 1 }

/-- Takes the next token, which has to be `t`. -/
def expect (t : Token) : Reading Unit := do
  if (← peek) = t then skip else throw .unparsable

/-- Takes the next token if it is `t`. -/
def accept (t : Token) : Reading Bool := do
  if (← peek) = t then
    skip
    pure true
  else pure false

/-- The full name of a tag. -/
def tagName (handle : Option Text) (suffix : Text) : Reading Text := do
  match handle with
  | none => pure suffix
  | some h =>
    match (← get).handles.lookup h with
    | some expansion => pure (expansion ++ suffix)
    | none => throw .unparsable

/-- The anchor and the tag in front of a node, in any order. -/
def properties : Reading (Option Text × Option Text) := do
  match ← peek with
  | .anchor a =>
    skip
    match ← peek with
    | .tag h s =>
      skip
      pure (some a, some (← tagName h s))
    | _ => pure (some a, none)
  | .tag h s =>
    skip
    match ← peek with
    | .anchor a =>
      skip
      pure (some a, some (← tagName h s))
    | _ => pure (none, some (← tagName h s))
  | _ => pure (none, none)

/-- A number for a node that begins here. -/
def fresh : Reading Nat :=
  modifyGet fun r => (r.graph.size, { r with graph := r.graph.push Node.empty })

/-- A number for a node that begins here with an anchor, whose name must not be taken. -/
def freshWith (anchor : Option Text) : Reading Nat := do
  if let some a := anchor then
    if a ∈ (← get).names then throw .unparsable
    modify fun r => { r with names := a :: r.names }
  fresh

/-- The node with the number `n`, which is complete now, so that its anchor can be referred
to. -/
def complete (n : Nat) (anchor : Option Text) (tag : Tag) (content : Content) : Reading Nat := do
  modify fun r => { r with
    graph := r.graph.set n ⟨tag, content⟩
    anchors := (anchor.toList.map fun a => (a, n)) ++ r.anchors }
  pure n

/-- The tag of a collection; a tag that says nothing counts as none. -/
def collectionTag (default : Tag) (name : Option Text) : Tag :=
  match name with
  | none => default
  | some n => if n = ['!'] then default else .ofName n

/-- The tag of a scalar. -/
def scalarTag (plain : Bool) (text : Text) (name : Option Text) : Tag :=
  match name with
  | none => if plain then .ofPlain text else .str
  | some n => if n = ['!'] then .ofPlain text else .ofName n

/-- Whether a token can come behind a mark without a node between them. -/
def endsBlockNode (t : Token) : Bool := t = .key || t = .value || t = .blockEnd

/-- Whether a token can come behind the mark of an item without a node between them. -/
def endsItem (t : Token) : Bool := t = .blockEntry || t = .blockEnd

mutual

/-- A node; `block` says whether it may be a block, and `indentless` whether it may be a
sequence that is not indented. -/
def node (block indentless : Bool) : Nat → Reading Nat
  | 0 => throw .unparsable
  | fuel + 1 => do
    match ← peek with
    | .alias a =>
      skip
      match (← get).anchors.lookup a with
      | some n => pure n
      | none => throw .unparsable
    | _ =>
      let (anchor, tag) ← properties
      let t ← peek
      if t = .blockEntry ∧ indentless then
        let n ← freshWith anchor
        complete n anchor (collectionTag .seq tag) (.sequence (← indentlessItems fuel))
      else match t with
        | .scalar plain text =>
          let n ← freshWith anchor
          skip
          complete n anchor (scalarTag plain text tag) (.scalar text)
        | .flowSequenceStart =>
          let n ← freshWith anchor
          skip
          complete n anchor (collectionTag .seq tag) (.sequence (← flowItems true fuel))
        | .flowMappingStart =>
          let n ← freshWith anchor
          skip
          complete n anchor (collectionTag .map tag) (.mapping (← flowEntries true fuel))
        | t =>
          if block ∧ t = .blockSequenceStart then
            let n ← freshWith anchor
            skip
            complete n anchor (collectionTag .seq tag) (.sequence (← blockItems fuel))
          else if block ∧ t = .blockMappingStart then
            let n ← freshWith anchor
            skip
            complete n anchor (collectionTag .map tag) (.mapping (← blockEntries fuel))
          else if anchor.isSome ∨ tag.isSome then
            let n ← freshWith anchor
            complete n anchor (scalarTag true [] tag) (.scalar [])
          else throw .unparsable

/-- The items of a sequence by indentation. -/
def blockItems : Nat → Reading (List Nat)
  | 0 => throw .unparsable
  | fuel + 1 => do
    if ← accept .blockEntry then
      let item ← if endsItem (← peek) then fresh else node true false fuel
      let items ← blockItems fuel
      pure (item :: items)
    else
      expect .blockEnd
      pure []

/-- The items of a sequence that is not indented. -/
def indentlessItems : Nat → Reading (List Nat)
  | 0 => throw .unparsable
  | fuel + 1 => do
    if ← accept .blockEntry then
      let t ← peek
      let item ← if t = .blockEntry ∨ endsBlockNode t then fresh else node true false fuel
      let items ← indentlessItems fuel
      pure (item :: items)
    else pure []

/-- The entries of a mapping by indentation. A key may be missing in front of a value, and a
value behind a key. -/
def blockEntries : Nat → Reading (List (Nat × Nat))
  | 0 => throw .unparsable
  | fuel + 1 => do
    if ← accept .key then
      let key ← if endsBlockNode (← peek) then fresh else node true true fuel
      let value ← blockValue fuel
      let entries ← blockEntries fuel
      pure ((key, value) :: entries)
    else
      expect .blockEnd
      pure []

/-- The value of an entry of a mapping by indentation. -/
def blockValue : Nat → Reading Nat
  | 0 => throw .unparsable
  | fuel + 1 => do
    if ← accept .value then
      if endsBlockNode (← peek) then fresh else node true true fuel
    else fresh

/-- The items of a sequence between brackets. An item with the mark of a key is a mapping of
one entry. -/
def flowItems (first : Bool) : Nat → Reading (List Nat)
  | 0 => throw .unparsable
  | fuel + 1 => do
    if ← accept .flowSequenceEnd then pure []
    else
      if !first then expect .flowEntry
      match ← peek with
      | .flowSequenceEnd =>
        skip
        pure []
      | .key =>
        let n ← fresh
        skip
        let key ← flowPart .flowSequenceEnd true fuel
        let value ← flowValue .flowSequenceEnd fuel
        let pair ← complete n none .map (.mapping [(key, value)])
        let items ← flowItems false fuel
        pure (pair :: items)
      | _ =>
        let item ← node false false fuel
        let items ← flowItems false fuel
        pure (item :: items)

/-- The entries of a mapping between braces. A node without the mark of a key is a key
without a value. -/
def flowEntries (first : Bool) : Nat → Reading (List (Nat × Nat))
  | 0 => throw .unparsable
  | fuel + 1 => do
    if ← accept .flowMappingEnd then pure []
    else
      if !first then expect .flowEntry
      match ← peek with
      | .flowMappingEnd =>
        skip
        pure []
      | .key =>
        skip
        let key ← flowPart .flowMappingEnd true fuel
        let value ← flowValue .flowMappingEnd fuel
        let entries ← flowEntries false fuel
        pure ((key, value) :: entries)
      | _ =>
        let key ← node false false fuel
        let value ← fresh
        let entries ← flowEntries false fuel
        pure ((key, value) :: entries)

/-- The node behind a mark in a flow collection that ends with `close`; `isKey` says whether
it is the mark of a key. -/
def flowPart (close : Token) (isKey : Bool) : Nat → Reading Nat
  | 0 => throw .unparsable
  | fuel + 1 => do
    let t ← peek
    if t = .flowEntry ∨ t = close ∨ (isKey ∧ t = .value) then fresh
    else node false false fuel

/-- The value of an entry in a flow collection that ends with `close`. -/
def flowValue (close : Token) : Nat → Reading Nat
  | 0 => throw .unparsable
  | fuel + 1 => do
    if ← accept .value then flowPart close false fuel
    else fresh

end

/-! ### Documents -/

/-- The meanings of the tag handles of every document. -/
def standardHandles : List (Text × Text) :=
  [(['!'], ['!']), (['!', '!'], Tag.standardPrefix)]

/-- The directives in front of a document: the version, which may be named once, and the tag
handles, each of which may be defined once. -/
def directives (version : Bool) (handles : List (Text × Text)) : Nat → Reading (List (Text × Text))
  | 0 => throw .unparsable
  | fuel + 1 => do
    match ← peek with
    | .version major _ =>
      if version ∨ major ≠ 1 then throw .unparsable
      skip
      directives true handles fuel
    | .tagHandle h expansion =>
      if (handles.lookup h).isSome then throw .unparsable
      skip
      directives version ((h, expansion) :: handles) fuel
    | .directive =>
      skip
      directives version handles fuel
    | _ => pure handles

/-- Skips the marks at the end of documents. -/
def skipEnds : Nat → Reading Unit
  | 0 => throw .unparsable
  | fuel + 1 => do
    if ← accept .documentEnd then skipEnds fuel

/-- Whether a document without content ends at a token. -/
def endsDocument : Token → Bool
  | .version .. | .tagHandle .. | .directive | .documentStart | .documentEnd | .streamEnd => true
  | _ => false

/-- The content of a document with a mark at its start. -/
def explicitDocument (fuel : Nat) : Reading Nat := do
  let handles ← directives false [] fuel
  modify fun r => { r with handles := handles ++ standardHandles }
  expect .documentStart
  if endsDocument (← peek) then fresh else node true false fuel

/-- **The only document**, if there is one. -/
def document? (fuel : Nat) : Reading (Option Nat) := do
  let content ← match ← peek with
    | .streamEnd => pure none
    | .version .. | .tagHandle .. | .directive | .documentStart =>
      some <$> explicitDocument fuel
    | _ =>
      modify fun r => { r with handles := standardHandles }
      some <$> node true false fuel
  if content.isSome then skipEnds fuel
  if (← peek) = .streamEnd then pure content
  else
    let _ ← directives false [] fuel
    throw .unparsable

end Reading

/-- **The graph of a text**, which holds one document or none. -/
def Graph.ofText? (t : Text) : Except Failure (Option Graph) :=
  if !t.all isAllowed then .error .unparsable
  else
    let (ts, failure) := tokens t
    let reader : Reader := { tokens := ts, failure }
    ((Reading.document? (4 * ts.length + 8)).run reader).map fun r => r.1.map fun _ => r.2.graph

end ApiTypes.Yaml
