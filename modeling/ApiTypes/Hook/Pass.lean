import ApiTypes.Failure
import ApiTypes.Schema.Node

/-!
# The pass of a property hook

A property hook may change every property of a description before types are made of it:
its declared type, its description, and whether it is optional. A hook is given the
property and a view of it (`ApiTypes.Hook.View`) and answers with another view.

`ApiTypes.Hook.mapSchema` rebuilds a schema, the schemas inside of it first. Only places
of schemas are walked: the items of an array, the members of `allOf`, `oneOf` and
`anyOf`, the further properties, and then the properties, each of which is rebuilt
before the hook sees the first one of them. The hook is asked about each property that is
a mapping without a pointer, in their order. While it goes through the properties of an
object, its list of required names is kept up to date.

The hook may have effects, so the pass is written for any monad: for hooks that can
fail, for hooks that are total, for hooks whose calls are to be recorded.
-/

namespace ApiTypes.Hook

/-- **What a hook sees of a property**, and what it answers with. -/
structure View where
  /-- The declared type, null when there is none. -/
  type : Value
  /-- Whether the property may be missing. -/
  optional : Bool
  /-- The description, null when there is none. -/
  description : Value

end Hook

/-- A property hook, with its effects in `m`. -/
abbrev Hook (m : Type → Type) := Entries → Hook.View → m Hook.View

namespace Hook

open Schema

/-- Writes a keyword, or removes it when its value is null. -/
def setField (name : String) (value : Value) (es : Entries) : Entries :=
  match value with
  | .null => Entries.erase (.str name) es
  | v => Entries.insert (.str name) v es

/-- A property with the type and the description of a view. -/
def View.apply (view : View) (property : Entries) : Entries :=
  setField "description" view.description (setField "type" view.type property)

/-- The view of a property with name `name`, where the names in `required` are required
ones. -/
def viewOf (required : Option (List Text)) (name : Text) (property : Entries) : View where
  type := valueField property "type"
  optional := match required with
    | none => true
    | some names => name ∉ names
  description := valueField property "description"

/-- The required names after a property has turned out to be optional or not. A list is
made only for a name that is required. -/
def require (required : Option (List Text)) (name : Text) (optional : Bool) :
    Option (List Text) :=
  match optional, required with
  | true, none => none
  | true, some names => some (names.filter (· ≠ name))
  | false, none => some [name]
  | false, some names => if name ∈ names then some names else some (names ++ [name])

/-- Whether the hook is asked about a property: about mappings without a pointer. -/
def asked? : Value → Option Entries
  | .map es => if isTruthy (Entries.field? es "$ref") then none else some es
  | _ => none

variable {m : Type → Type} [Monad m]

/-- Asks the hook about some properties, one after the other. -/
def mapProperties (hook : Hook m) (required : Option (List Text)) :
    Entries → m (Entries × Option (List Text))
  | [] => pure ([], required)
  | (key, property) :: rest =>
    match asked? property with
    | none => do
      let (properties, required) ← mapProperties hook required rest
      pure ((key, property) :: properties, required)
    | some es => do
      let view ← hook es (viewOf required key.text es)
      let (properties, required) ←
        mapProperties hook (require required key.text view.optional) rest
      pure ((key, .map (view.apply es)) :: properties, required)

/-- Writes a keyword that has been rebuilt. -/
def replaceField (name : String) (value : Option Value) (es : Entries) : Entries :=
  match value with
  | none => es
  | some v => Entries.insert (.str name) v es

section Level

variable (f : Value → m Value)

/-- Rebuilds the schemas of a list. -/
def rebuildList : Option Value → m (Option Value)
  | some (.list items) => do pure (some (.list (← items.mapM f)))
  | _ => pure none

/-- Rebuilds a schema. -/
def rebuildMap : Option Value → m (Option Value)
  | some (.map es) => do pure (some (← f (.map es)))
  | _ => pure none

/-- Rebuilds the schema, or the schemas, of the items of an array. -/
def rebuildItems : Option Value → m (Option Value)
  | some (.list items) => rebuildList f (some (.list items))
  | v => rebuildMap f v

/-- The list of required names that the pass starts with. -/
def requiredOf (es : Entries) : Option (List Text) :=
  (listField? es "required").map requiredNames

/-- **One level of the pass**, given the rebuilding of the schemas below. -/
def rebuildLevel (hook : Hook m) (es : Entries) : m Entries := do
  let items ← rebuildItems f (Entries.field? es "items")
  let allOf ← rebuildList f (Entries.field? es "allOf")
  let oneOf ← rebuildList f (Entries.field? es "oneOf")
  let anyOf ← rebuildList f (Entries.field? es "anyOf")
  let additional ← rebuildMap f (Entries.field? es "additionalProperties")
  let es := replaceField "additionalProperties" additional <| replaceField "anyOf" anyOf <|
    replaceField "oneOf" oneOf <| replaceField "allOf" allOf <| replaceField "items" items es
  match Entries.field? es "properties" with
  | some (.map properties) => do
    let rebuilt ← properties.mapM fun e => do pure (e.1, ← f e.2)
    let (mapped, required) ← mapProperties hook (requiredOf es) rebuilt
    let es := Entries.insert (.str "properties") (.map mapped) es
    match required with
    | none => pure es
    | some names =>
      pure (Entries.insert (.str "required") (.list (names.map fun t => .str (String.ofList t))) es)
  | _ => pure es

end Level

/-- The pass over a schema, down to a given number of levels. -/
def mapSchemaAt (hook : Hook m) : Nat → Value → m Value
  | n + 1, .map es => do pure (.map (← rebuildLevel (mapSchemaAt hook n) hook es))
  | _, v => pure v

/-- **The pass over a schema.** -/
def mapSchema (hook : Hook m) (schema : Value) : m Value := mapSchemaAt hook schema.depth schema

/-- **The pass over the named schemas of a description.** -/
def mapSchemas (hook : Hook m) (schemas : Entries) : m Entries :=
  schemas.mapM fun e => do pure (e.1, ← mapSchema hook e.2)

end Hook

end ApiTypes
