import ApiTypes.Failure
import ApiTypes.Value.Equal

/-!
# Stored sections

A settings file may give any value for a section of the settings. A value that is no such
section is stored all the same (`ApiTypes.Stored.other`), and it is only noticed when a
field of the section is asked for: `ApiTypes.Stored.content` fails then, and names the
field. A file that replaces all settings at once can also leave a section out
(`ApiTypes.Stored.missing`), and then the section itself is named.
-/

namespace ApiTypes

/-- **A stored section** of the settings. -/
inductive Stored (α : Type) where
  /-- A section. -/
  | known (content : α)
  /-- A value that is no section. -/
  | other (value : Value)
  /-- Nothing; the name is that of the section. -/
  | missing (name : String)
deriving DecidableEq

namespace Stored

variable {α : Type}

/-- **The content of a section**, which is asked for its field `field`. -/
def content (field : String) : Stored α → Except Failure α
  | known x => .ok x
  | other v => .error (.noAttribute (Failure.owner v.kind) field.toList)
  | missing name =>
    .error (.noAttribute ("'" ++ Failure.settingsClass ++ "' object") name.toList)

/-- Writes a value that is no section; a section that is missing stays so. -/
def overwrite (v : Value) : Stored α → Stored α
  | missing name => missing name
  | _ => other v

/-- The value of a field as a section. -/
def ofField (es : Entries) (name : String) : Stored α :=
  match Entries.field? es name with
  | some v => other v
  | none => missing name

@[simp]
theorem content_known (field : String) (x : α) : (known x).content field = .ok x := rfl

/-- Only a section has a content. -/
theorem content_eq_ok_iff {field : String} {s : Stored α} {x : α} :
    s.content field = .ok x ↔ s = known x := by
  cases s <;> simp [content]

end Stored

end ApiTypes
