import ApiTypes.Settings.Stored

/-!
# Settings of the output

What may become of a file that is already there is the mode of the output
(`ApiTypes.Output.Mode`); beside it there are two switches, which count as on or off by
`ApiTypes.Value.truthy`.
-/

namespace ApiTypes.Output

/-- What is done where the output file is already there. -/
inductive Mode where
  /-- Nothing: it is an error. -/
  | errorIfExists
  /-- It is overwritten. -/
  | force
deriving DecidableEq, Repr

/-- The name of a mode. -/
def Mode.name : Mode → String
  | errorIfExists => "error"
  | force => "force"

/-- The mode of a name. -/
def Mode.ofName (name : String) : Except Failure Mode :=
  match name with
  | "error" => .ok .errorIfExists
  | "force" => .ok .force
  | _ => .error (.unknownMode name.toList)

theorem Mode.ofName_name (m : Mode) : Mode.ofName m.name = .ok m := by
  cases m <;> rfl

theorem Mode.ofName_eq_ok {name : String} {m : Mode} (h : Mode.ofName name = .ok m) :
    name = m.name := by
  unfold Mode.ofName at h
  split at h
  · rw [← Except.ok.inj h]
    rfl
  · rw [← Except.ok.inj h]
    rfl
  · exact absurd h (by simp)

/-- **The settings of the output.** -/
structure Settings where
  /-- What is done where the output file is already there. -/
  mode : Stored Mode := .known .errorIfExists
  /-- Whether the output is checked before it is written. -/
  validateBeforeWrite : Value := .bool true
  /-- Whether the output file is written all or nothing. -/
  atomicWrite : Value := .bool true
deriving DecidableEq

end ApiTypes.Output
