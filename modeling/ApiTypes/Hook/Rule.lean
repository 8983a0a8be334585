import ApiTypes.Hook.Pass
import ApiTypes.Value.Equal

/-!
# Hooks given by a rule

A rule (`ApiTypes.Hook.Rule`) says in a few fields what a hook does: for which properties
it applies, whether it refuses them, and what it puts into the view of the others. It is
the form in which hooks are written down.
-/

namespace ApiTypes.Hook

/-- What a rule does with the optionality of a property. -/
inductive OptionalRule where
  /-- It stays. -/
  | keep
  /-- It is negated. -/
  | flip
  /-- It is set. -/
  | set (optional : Bool)
deriving DecidableEq, Repr

/-- **A hook, by what it does.** -/
structure Rule where
  /-- The keyword and the value that a property must have for the rule to apply. -/
  applies : Option (Value × Value) := none
  /-- The message with which the rule refuses a property. -/
  refusal : Option String := none
  /-- Whether the rule answers with no view at all. -/
  silent : Bool := false
  /-- What the rule does with the optionality. -/
  optional : OptionalRule := .keep
  /-- The declared type that the rule sets, if it sets one. -/
  type : Option Value := none
  /-- The description that the rule sets, if it sets one. -/
  description : Option Value := none

namespace OptionalRule

/-- The optionality after a rule. -/
def apply : OptionalRule → Bool → Bool
  | keep, b => b
  | flip, b => !b
  | set b, _ => b

end OptionalRule

namespace Rule

/-- Whether a rule applies to a property; a keyword that is missing counts as null. -/
def appliesTo (rule : Rule) (property : Entries) : Bool :=
  match rule.applies with
  | none => true
  | some (key, value) => ((Entries.get? key property).getD .null).equal value

/-- The answer of a rule that applies. -/
def answer (rule : Rule) (view : View) : View where
  type := rule.type.getD view.type
  optional := rule.optional.apply view.optional
  description := rule.description.getD view.description

/-- **The hook of a rule.** -/
def hook (rule : Rule) : Hook (Except Failure) := fun property view =>
  if !rule.appliesTo property then pure view
  else match rule.refusal with
    | some message => .error (.refused message)
    | none =>
      if rule.silent then .error (.noAttribute (Failure.owner .null) "optional".toList)
      else pure (rule.answer view)

end Rule

/-! ### Recording the calls of a hook -/

/-- A call of a hook: the property and its view. -/
structure Call where
  /-- The property. -/
  property : Entries
  /-- What the hook sees of it. -/
  view : View

/-- A hook that records its calls, the latest first, before it answers. -/
def recorded (hook : Hook (Except Failure)) : Hook (ExceptT Failure (StateM (List Call))) :=
  fun property view => do
    modify fun calls => ⟨property, view⟩ :: calls
    match hook property view with
    | .ok answer => pure answer
    | .error e => throw e

/-- The named schemas after the pass of a hook, together with the calls of the hook in
their order. -/
def mapSchemasRecorded (hook : Hook (Except Failure)) (schemas : Entries) :
    Except Failure Entries × List Call :=
  let (result, calls) := (mapSchemas (recorded hook) schemas).run []
  (result, calls.reverse)

end ApiTypes.Hook
