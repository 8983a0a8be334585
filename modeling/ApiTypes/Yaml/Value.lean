import ApiTypes.Yaml.Reader
import ApiTypes.Yaml.Scalars

/-!
# The value of a document

`ApiTypes.Yaml.parse` reads a text and gives its value. Sequences become lists, mappings
become mappings, in which the merge key `<<` takes in the entries of other mappings, in
front of all other ones, and a later entry with the same key replaces the value of an
earlier one. Containers cannot be keys.

The values are made in two stages. First every node gets its form
(`ApiTypes.Yaml.Form`): a scalar its value, and a container its parts, which are named by
their numbers. A container is only announced when it is met, and its parts are looked at
when all containers announced before it are done. So of several failures the one counts
that is nearest to the root, and of those at the same distance the first one. A node with
several parents gets its form once. Then the forms are put together.

Merges change the graph as the mappings are looked at: a mapping keeps the entries it has
taken in, and the sign for a value by default becomes a string where it is a key of a
mapping. What is looked at later sees the graph as it is then.
-/

namespace ApiTypes.Yaml

/-- **The form of a node.** -/
inductive Form where
  /-- A value that is no container. -/
  | value (v : Value)
  /-- A list of items. -/
  | list (items : List Nat)
  /-- A mapping. -/
  | map (entries : List (Value × Nat))
  /-- A set. -/
  | set (members : List Value)
  /-- A list of pairs. -/
  | pairs (items : List (Nat × Nat))

/-- **The forms made so far**, and what is left to do. -/
structure Builder where
  /-- The nodes. -/
  graph : Graph
  /-- The forms of the nodes that have been met. -/
  forms : Array (Option Form)
  /-- The containers whose parts have not been looked at, the latest first. -/
  announced : List Nat := []

/-- The work of a builder. -/
abbrev Building := StateT Builder (Except Failure)

namespace Building

/-- The node with a number, as it is now. -/
def node (n : Nat) : Building Node := return (← get).graph.get n

/-- The form of a node, if it has one. -/
def form? (n : Nat) : Building (Option Form) := return (← get).forms[n]?.join

/-- Gives a node its form. -/
def give (n : Nat) (form : Form) : Building Unit :=
  modify fun b => { b with forms := b.forms.setIfInBounds n (some form) }

/-- Changes a node. -/
def change (n : Nat) (node : Node) : Building Unit :=
  modify fun b => { b with graph := b.graph.set n node }

/-! ### Scalars -/

/-- The text of a scalar, or of the value by default of a mapping. The number of nodes bounds
the mappings within each other. -/
def scalarText : Nat → Nat → Building Text
  | 0, _ => throw .unparsable
  | fuel + 1, n => do
    match (← node n).content with
    | .scalar t => pure t
    | .sequence _ => throw .unparsable
    | .mapping entries =>
      let graph := (← get).graph
      match entries.find? fun e => (graph.get e.1).tag = .value with
      | some e => scalarText fuel e.2
      | none => throw .unparsable

/-- The value of a node that is no container, by its tag. -/
def scalarValue (n : Nat) (tag : Tag) : Building Value := do
  match tag with
  | .value | .merge | .other => throw .unparsable
  | tag =>
    let t ← scalarText ((← get).graph.size + 1) n
    match tag with
    | .null => pure .null
    | .bool => liftM (boolValue t)
    | .int => liftM (intValue t)
    | .float => liftM (floatValue (n + 1) t)
    | .binary => liftM (binaryValue t)
    | .timestamp =>
      match (← node n).content with
      | .scalar t => liftM (stampValue t)
      | _ => throw (.notText .list)
    | _ => pure (.str (String.ofList t))

/-- **Meeting a node**: a scalar gets its value, and a container is announced. -/
def meet (n : Nat) : Building Unit := do
  if (← form? n).isSome then return
  let tag := (← node n).tag
  match tag with
  | .seq | .map | .set | .omap | .pairs =>
    give n (.list [])
    modify fun b => { b with announced := n :: b.announced }
  | tag => give n (.value (← scalarValue n tag))

/-! ### Merges -/

section Merge

variable (merge : Nat → Building Unit)

/-- The entries of a mapping whose merges are done first. -/
def mergedEntries (n : Nat) : Building (List (Nat × Nat)) := do
  merge n
  match (← node n).content with
  | .mapping entries => pure entries
  | _ => throw .unparsable

/-- The entries that a mapping, or each mapping of a sequence, gives to a merge. Those of a
later mapping come first. -/
def entriesFrom (n : Nat) : Building (List (Nat × Nat)) := do
  match (← node n).content with
  | .mapping _ => mergedEntries merge n
  | .sequence items =>
    items.foldlM (fun given item => do pure ((← mergedEntries merge item) ++ given)) []
  | .scalar _ => throw .unparsable

/-- One more entry of a mapping, behind the entries that are taken in and those that stay, both
in reverse. -/
def mergeEntry (parts : List (Nat × Nat) × List (Nat × Nat)) (entry : Nat × Nat) :
    Building (List (Nat × Nat) × List (Nat × Nat)) := do
  let key ← node entry.1
  match key.tag with
  | .merge => pure ((← entriesFrom merge entry.2).reverse ++ parts.1, parts.2)
  | .value =>
    change entry.1 { key with tag := .str }
    pure (parts.1, entry :: parts.2)
  | _ => pure (parts.1, entry :: parts.2)

end Merge

/-- **Does the merges of a mapping**: the entries that it takes in come first. The sign for
a value by default becomes a string where it is a key. The number of nodes bounds the
mappings that are merged into each other. -/
def merge : Nat → Nat → Building Unit
  | 0, _ => throw .unparsable
  | fuel + 1, n => do
    match ← node n with
    | ⟨tag, .mapping entries⟩ =>
      let (taken, own) ← entries.foldlM (mergeEntry (merge fuel)) ([], [])
      change n ⟨tag, .mapping (taken.reverse ++ own.reverse)⟩
    | _ => throw .unparsable

/-! ### Containers -/

/-- Writes a part to a key: in the place of the key if it is present, else behind the last
entry. -/
def insert (key : Value) (part : Nat) : List (Value × Nat) → List (Value × Nat)
  | [] => [(key, part)]
  | (k, p) :: rest =>
    if k.sameKey key then (k, part) :: rest else (k, p) :: insert key part rest

/-- One more entry of a mapping. Its key must be no container. -/
def addEntry (entries : List (Value × Nat)) (entry : Nat × Nat) :
    Building (List (Value × Nat)) := do
  meet entry.1
  match ← form? entry.1 with
  | some (.value key) =>
    meet entry.2
    pure (insert key entry.2 entries)
  | _ => throw .unparsable

/-- The entries of a mapping, with all merges done. -/
def entriesOf (n : Nat) : Building (List (Value × Nat)) := do
  let entries ← mergedEntries (merge ((← get).graph.size + 1)) n
  entries.foldlM addEntry []

/-- The pair of a mapping with a single entry. -/
def pairOf (n : Nat) : Building (Nat × Nat) := do
  match (← node n).content with
  | .mapping [(first, second)] =>
    meet first
    meet second
    pure (first, second)
  | _ => throw .unparsable

/-- **Looks at the parts of a container.** -/
def lookAt (n : Nat) : Building Unit := do
  let ⟨tag, content⟩ ← node n
  match tag, content with
  | .seq, .sequence items =>
    items.forM meet
    give n (.list items)
  | .map, .mapping _ => give n (.map (← entriesOf n))
  | .set, .mapping _ => give n (.set ((← entriesOf n).map (·.1)))
  | .omap, .sequence items | .pairs, .sequence items => give n (.pairs (← items.mapM pairOf))
  | _, _ => throw .unparsable

/-- Looks at the parts of all containers, those announced earlier first. Every round goes one
step away from the root, so the number of nodes bounds the rounds. -/
def lookAtAll : Nat → Building Unit
  | 0 => pure ()
  | fuel + 1 => do
    let announced := (← get).announced.reverse
    if announced.isEmpty then return
    modify fun b => { b with announced := [] }
    announced.forM lookAt
    lookAtAll fuel

end Building

/-! ### Putting together -/

/-- The value of a node, down to a given number of levels. -/
def valueAt (forms : Array (Option Form)) : Nat → Nat → Value
  | 0, _ => .null
  | fuel + 1, n =>
    match forms[n]?.join with
    | none => .null
    | some (.value v) => v
    | some (.list items) => .list (items.map (valueAt forms fuel))
    | some (.map entries) => .map (entries.map fun e => (e.1, valueAt forms fuel e.2))
    | some (.set members) => .set members
    | some (.pairs items) =>
      .list (items.map fun e => .pair (valueAt forms fuel e.1) (valueAt forms fuel e.2))

/-- **The value of a graph**: that of its first node. -/
def Graph.value (g : Graph) : Except Failure Value := do
  let build : Building Unit := do
    Building.meet 0
    Building.lookAtAll (g.size + 1)
  let ((), b) ← build.run { graph := g, forms := Array.replicate g.size none }
  return valueAt b.forms (g.size + 1) 0

/-- **Reading YAML**: the value of the only document in a text, null if there is none. -/
def parse (t : Text) : Except Failure Value := do
  match ← Graph.ofText? t with
  | none => .ok .null
  | some g => g.value

end ApiTypes.Yaml
