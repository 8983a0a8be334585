import ApiTypes.Formatter
import ApiTypes.Hook.Catalogue
import ApiTypes.Output.Settings

/-!
# Settings

The settings of a run are its property hook, those of the formatter and those of the
output. `ApiTypes.Settings.ofValue` makes them from a value, a mapping with an entry for
each of them; `ApiTypes.Settings.toValue` shows them as such a value. What a file gives
is stored as it is, unless it is a mapping with the fields of a section, the name of a
mode or the path of a hook. So the settings of an odd file are made without complaint,
but they cannot be shown or used. Entries that are no settings are passed over, but for a
few names of the settings as a whole: all of them can be replaced at once, and their class
cannot.
-/

namespace ApiTypes

/-! ### The formatter -/

namespace Formatter.Settings

/-- Writes a field of the settings of the formatter. -/
def setField (name : String) (v : Value) (s : Settings) : Except Failure Settings :=
  match name with
  | "enabled" => .ok { s with enabled := v }
  | "command" => .ok { s with command := v }
  | "parser" => .ok { s with parser := v }
  | "config_path" => .ok { s with configPath := v }
  | "self" => .error (.repeatedField name.toList)
  | _ => .error (.unknownField name.toList)

/-- Writes the fields in some entries. -/
def setFields (s : Settings) : Entries → Except Failure Settings
  | [] => .ok s
  | (.str name, v) :: rest => s.setField name v >>= fun s => s.setFields rest
  | _ :: _ => .error .fieldNotString

/-- The settings of the formatter in a mapping, whose keys have to be strings, all of them
names of fields. -/
def ofEntries (es : Entries) : Except Failure Settings :=
  if es.all fun e => e.1.str?.isSome then setFields {} es else .error .fieldNotString

/-- The settings of the formatter as a mapping. -/
def toValue (s : Settings) : Value :=
  .map [(.str "enabled", s.enabled), (.str "command", s.command), (.str "parser", s.parser),
    (.str "config_path", s.configPath)]

end Formatter.Settings

/-! ### The output -/

namespace Output.Settings

/-- The mode in a value: a string names it. -/
def modeOf (v : Value) : Except Failure (Stored Mode) :=
  match v with
  | .str name => (Mode.ofName name).map .known
  | v => .ok (.other v)

/-- The settings of the output in a mapping. -/
def ofEntries (es : Entries) : Except Failure Settings := do
  let mode ← match Entries.field? es "mode" with
    | some v => modeOf v
    | none => .ok (.known .errorIfExists)
  return {
    mode
    validateBeforeWrite := (Entries.field? es "validate_before_write").getD (.bool true)
    atomicWrite := (Entries.field? es "atomic_write").getD (.bool true) }

/-- The settings of the output as a mapping. -/
def toValue (s : Settings) : Except Failure Value := do
  let mode ← s.mode.content "value"
  return .map [(.str "mode", .str mode.name),
    (.str "validate_before_write", s.validateBeforeWrite), (.str "atomic_write", s.atomicWrite)]

end Output.Settings

/-! ### All settings -/

/-- **The settings of a run.** -/
structure Settings where
  /-- The property hook; null stands for none. -/
  hook : Stored Hook.Named := .other .null
  /-- The settings of the formatter. -/
  formatter : Stored Formatter.Settings := .known {}
  /-- The settings of the output. -/
  output : Stored Output.Settings := .known {}
  /-- A value stored under the name by which the settings are shown, which cannot be done
  any more then. -/
  shown : Option Value := none

namespace Settings

/-- The hook of a run. A value that is no hook cannot be called, which is noticed at the
first property. -/
def hook? (s : Settings) : Option (Hook (Except Failure)) :=
  match s.hook with
  | .known named => some named.hook
  | .other .null | .missing _ => none
  | .other v => some fun _ _ => .error (.notCallable v.kind)

/-- The settings when all of them are replaced at once by what is in a mapping, as it is. -/
def replaced (es : Entries) : Settings where
  hook := .other ((Entries.field? es "property_mapper").getD .null)
  formatter := Stored.ofField es "formatter"
  output := Stored.ofField es "output"
  shown := Entries.field? es "to_dict"

/-- Writes one of the settings. -/
def setEntry (name : String) (v : Value) (s : Settings) : Except Failure Settings :=
  match name, v with
  | "property_mapper", .str path =>
    (Hook.find path.toList).map fun named => { s with hook := .known named }
  | "property_mapper", v => .ok { s with hook := .other v }
  | "formatter", .map es =>
    (Formatter.Settings.ofEntries es).map fun f => { s with formatter := .known f }
  | "formatter", v => .ok { s with formatter := s.formatter.overwrite v }
  | "output", .map es =>
    (Output.Settings.ofEntries es).map fun o => { s with output := .known o }
  | "output", v => .ok { s with output := s.output.overwrite v }
  | "to_dict", v => .ok { s with shown := some v }
  | "__dict__", .map es => .ok (replaced es)
  | "__dict__", v => .error (.notDictionary v.kind)
  | "__class__", v => .error (.notClass v.kind)
  | "__weakref__", _ => .error (.notWritable name.toList)
  | _, _ => .ok s

/-- Writes the settings in some entries, one after the other. -/
def setEntries (s : Settings) : Entries → Except Failure Settings
  | [] => .ok s
  | (.str name, v) :: rest => s.setEntry name v >>= fun s => s.setEntries rest
  | (key, _) :: _ => .error (.nameNotString key.kind)

/-- **The settings in a value.** -/
def ofValue (v : Value) : Except Failure Settings :=
  match v with
  | .map es => setEntries {} es
  | v => .error (.noAttribute (Failure.owner v.kind) "items".toList)

/-- The property hook as a value: its path. -/
def hookValue (s : Settings) : Except Failure Value :=
  match s.hook with
  | .known named => named.path.map fun path => .str (String.ofList path)
  | .other v =>
    if v.truthy then .error (.noAttribute (Failure.owner v.kind) "__module__".toList)
    else .ok .null
  | .missing _ => .ok .null

/-- **The settings as a value.** -/
def toValue (s : Settings) : Except Failure Value := do
  if let some v := s.shown then throw (.notCallable v.kind)
  let hook ← s.hookValue
  let formatter ← s.formatter.content "enabled"
  let output ← s.output.content "mode"
  return .map [(.str "property_mapper", hook), (.str "formatter", formatter.toValue),
    (.str "output", ← output.toValue)]

/-- Whether settings made from a value are shown as that value. -/
def isStable (v : Value) : Bool :=
  match ofValue v >>= toValue with
  | .ok w => w = v
  | .error _ => false

end Settings

end ApiTypes
