import ApiTypes.Hook.Member

/-!
# The catalogue of hooks

Settings name a hook by a path `module:name`, where the name may lead on through the
members of what it names, with dots in between. There is one module, `mappers`
(`ApiTypes.Hook.Catalogue.moduleName`), and this file says what is in it: hooks given by
rules, a class that holds a hook, and texts. `ApiTypes.Hook.find` follows a path to a
hook. What it finds may be anything that can be called: a rule, but also the class, or one
of the members that everything has (`ApiTypes.Hook.Holder.operation?`), and these refuse
every property.
-/

namespace ApiTypes.Hook

/-- **A hook with its path** in the catalogue. -/
structure Named where
  /-- The path, for what has one. -/
  path : Except Failure Text
  /-- The hook. -/
  hook : Hook (Except Failure)

namespace Catalogue

/-- The name of the only module. -/
def moduleName : Text := "mappers".toList

/-- The name of the class in the module. -/
def groupName : Text := "Nested".toList

/-- What a name stands for. -/
inductive Item where
  /-- The module itself. -/
  | module
  /-- A hook, with its name and the rule that it follows. -/
  | rule (name : Text) (rule : Rule)
  /-- The class. -/
  | group
  /-- A value that cannot be called, by its kind. -/
  | value (kind : String)
  /-- Anything else that can be called. -/
  | callable (operation : Operation)

/-- The rule of the hook `dates`, for properties that hold moments. -/
def dates : Rule where
  applies := some (.str "format", .str "date-time")
  type := some (.str "string")
  description := some (.str "ISO 8601")

/-- The hooks of the module. -/
def rules : List (Text × Rule) :=
  [("keep".toList, {}),
   ("flip_optional".toList, { optional := .flip }),
   ("all_required".toList, { optional := .set false }),
   ("all_optional".toList, { optional := .set true }),
   ("strip".toList, { type := some .null, description := some .null }),
   ("boom".toList, { refusal := some "boom" }),
   ("broken".toList, { silent := true }),
   ("dates".toList, dates)]

namespace Item

/-- What holds the members of an item. -/
def holder : Item → Holder
  | module => .module
  | rule _ _ => .function
  | group => .group (String.ofList groupName)
  | value "str" => .text
  | value kind => .other kind
  | callable operation => operation.holder

/-- The hook that an item is, if it can be called. -/
def named? : Item → Option Named
  | rule name r => some ⟨.ok (moduleName ++ ':' :: name), r.hook⟩
  | group => some ⟨.ok (moduleName ++ ':' :: groupName),
      fun _ _ => .error (.takesNoArguments (String.ofList groupName))⟩
  | callable o => some ⟨match o.path? with
      | some path => .ok path.toList
      | none => .error (.noAttribute (o.holder.owner "") "__module__".toList), o.hook⟩
  | _ => none

/-- The member of an item that has been written down under a name. -/
def declared? (item : Item) (name : Text) : Option Item :=
  match item with
  | module =>
    if name = groupName then some group
    else if name = "LABEL".toList then some (value "str")
    else (rules.lookup name).map (rule name)
  | group =>
    if name = "keep".toList then some (rule (groupName ++ '.' :: name) {})
    else if name = "label".toList then some (value "str")
    else none
  | _ => none

/-- The calling of an item, if it can be called. -/
def call? (item : Item) : Option Operation := item.named?.map fun named => .ofCall named.hook

/-- **The member of an item under a name.** What has been written down comes first. -/
def member? (item : Item) (name : Text) : Option Item :=
  let word := String.ofList name
  (item.declared? name).or <| ((item.holder.valueKind? word).map value).or <|
    (if word = "__call__" then item.call? else item.holder.operation? word).map callable

/-- Follows names from an item on. -/
def follow (item : Item) : List Text → Except Failure Item
  | [] => .ok item
  | name :: rest =>
    match item.member? name with
    | some next => next.follow rest
    | none => .error (.noAttribute (item.holder.owner (String.ofList moduleName)) name)

end Item

/-- Whether there is a module of that name. The only one there is holds no modules. -/
def checkModule (name : Text) : Except Failure Unit :=
  if name.head? = some '.' then .error (.relativeModule name)
  else match Text.split '.' name with
    | [] => .ok ()
    | first :: rest =>
      if first ≠ moduleName then .error (.noModule first)
      else match rest with
        | [] => .ok ()
        | second :: _ => .error (.noPackage (first ++ '.' :: second) first)

end Catalogue

open Catalogue in
/-- **Finding the hook at a path.** -/
def find (path : Text) : Except Failure Named :=
  let name := path.takeWhile (· ≠ ':')
  let member := (path.dropWhile (· ≠ ':')).drop 1
  if name = [] ∨ member = [] then .error (.malformedHookPath path)
  else do
    checkModule name
    match (← Item.module.follow (Text.split '.' member)).named? with
    | some named => .ok named
    | none => .error (.hookNotCallable path)

end ApiTypes.Hook
