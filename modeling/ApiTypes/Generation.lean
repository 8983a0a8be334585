import ApiTypes.Formatter
import ApiTypes.Hook.Pass
import ApiTypes.Settings.Stored
import ApiTypes.TypeScript.Module
import ApiTypes.Version

/-!
# Generating a module

From a description to the text of its module: find the dialect, find the named schemas,
send them through the property hook if there is one, print the module, and send it
through the formatter if that is wanted.
-/

namespace ApiTypes

open Formatter (Work)

/-- The part of a run that gives the module before it is formatted. -/
def generateUnformatted (hook : Option (Hook (Except Failure))) (document : Value) :
    Work Text := do
  let dialect ← Description.dialect document
  let schemas ← Description.schemas dialect document
  Formatter.log .debug .generator
    ("Detected version ".toList ++ Text.ofNat dialect.major ++ " with ".toList ++
      Text.ofNat schemas.length ++ " schemas".toList)
  let mapped ← match hook with
    | none => pure schemas
    | some hook => liftM (Hook.mapSchemas hook schemas)
  return TypeScript.moduleText dialect mapped

/-- **Generating a module** in the working directory `directory`. -/
def generate (tree : FileTree) (directory : Text) (hook : Option (Hook (Except Failure)))
    (formatter : Stored Formatter.Settings) (document : Value) : Work Text := do
  let code ← generateUnformatted hook document
  let settings ← formatter.content "enabled"
  if settings.enabled.truthy then Formatter.format tree directory settings code
  else return code

end ApiTypes
