import ApiTypes.Output.Save
import ApiTypes.Proofs.Files.Directories
import ApiTypes.Proofs.Settings.Sections

/-!
# Settings that keep the output file

What becomes of an output file that is already there is up to the settings of the output:
to the mode, and to whether the file is written all or nothing. The two ways of writing ask
for the mode in different ways. The one overwrites in the mode of overwriting only, and the
other keeps the file in the mode of keeping only, so that they part where the mode is
neither, as a settings file may have it.

| written | kept in | overwritten in | theorem |
|---|---|---|---|
| all or nothing | every mode but one | the mode of overwriting | `ApiTypes.Output.save_of_keeps` |
| in place | the mode of keeping | every mode but one | `ApiTypes.Output.save_of_mode_ne` |

`ApiTypes.Output.keeps_iff` says which entries of a settings file give settings that keep
the file. A mode that is a string names one of the two, or there are no settings.
-/

namespace ApiTypes

/-! ### The settings of the output -/

namespace Output

variable {tree : FileTree} {name : PathName} {content : Text}

/-- **Settings with which a file that is there is kept.** The file is written all or nothing, and
then every mode but one keeps it; or it is written in place, and then only one mode does. -/
def Settings.Keeps (c : Settings) : Prop :=
  c.mode ≠ .known .force ∧ (c.atomicWrite.truthy ∨ c.mode = .known .errorIfExists)

instance : DecidablePred Settings.Keeps := fun _ => inferInstanceAs (Decidable (_ ∧ _))

/-- A file that is there is kept by them, and nothing else happens. -/
theorem save_of_keeps {c : Settings} (h : c.Keeps) (hexists : tree.exists name = .ok true) :
    save c tree name content = (.error (.outputExists name.text), tree) := by
  obtain ⟨hforce, hmode⟩ := h
  unfold save
  split
  · next hatomic =>
    simp only [saveAtomically, if_neg hforce, writeIfMissing, hexists]
  · next hatomic =>
    have herror : c.mode = .known .errorIfExists := hmode.resolve_left hatomic
    simp only [saveInPlace, refusal?, if_pos herror, hexists]

/-- **In place, every mode but one overwrites a file that is there.** -/
theorem save_of_mode_ne {c : Settings} {p : Path} {bytes : List UInt8}
    (hatomic : ¬c.atomicWrite.truthy) (hmode : c.mode ≠ .known .errorIfExists)
    (hget : tree.get name = .ok (p, .file bytes)) (hcontent : Text.surrogates? content = none) :
    save c tree name content = (.ok (), tree.put p (.file (Text.encodeUtf8 content))) := by
  obtain ⟨hlocate, hfind⟩ := FileTree.get_eq_ok hget
  have hwrite : overwrite tree name content =
      .ok (tree.put p (.file (Text.encodeUtf8 content))) := by
    simp only [overwrite, hlocate, bind, Except.bind, hfind]
  rw [save, if_neg hatomic]
  simp [saveInPlace, refusal?, if_neg hmode, hwrite, hcontent]

/-- **The entries of an output section with which a file that is there is kept**: the mode is
not that of overwriting, and if the file is not written all or nothing, the mode is a string or
left out. A string that names no mode gives no settings, and then nothing is written. -/
def KeepsOutput (fields : Entries) : Prop :=
  Entries.field? fields "mode" ≠ some (.str "force") ∧
    (((Entries.field? fields "atomic_write").getD (.bool true)).truthy ∨
      ∀ v, Entries.field? fields "mode" = some v → ∃ name, v = .str name)

theorem modeOf_eq_ok {v : Value} {mode : Stored Mode} (h : Settings.modeOf v = .ok mode) :
    (mode = .known .force ↔ v = .str "force") ∧
      (mode = .known .errorIfExists ↔ v ≠ .str "force" ∧ ∃ name, v = .str name) := by
  unfold Settings.modeOf at h
  split at h
  · next name =>
    obtain ⟨m, hm, rfl⟩ := Except.of_map_eq_ok h
    rw [Mode.ofName_eq_ok hm]
    cases m <;> simp [Mode.name]
  · next hstr =>
    rw [← Except.ok.inj h]
    exact ⟨⟨fun hm => absurd hm (by simp), fun hv => absurd hv (hstr _)⟩,
      ⟨fun hm => absurd hm (by simp), fun ⟨_, name, hv⟩ => absurd hv (hstr name)⟩⟩

/-- The settings of a section keep a file that is there when its entries do. -/
theorem keeps_iff {fields : Entries} {c : Settings} (h : Settings.ofEntries fields = .ok c) :
    c.Keeps ↔ KeepsOutput fields := by
  cases hfield : Entries.field? fields "mode" with
  | none =>
    simp only [Settings.ofEntries, hfield] at h
    rw [← Except.ok.inj h]
    simp [Settings.Keeps, KeepsOutput, hfield]
  | some v =>
    simp only [Settings.ofEntries, hfield, bind, Except.bind] at h
    split at h
    · exact absurd h (by simp)
    · next mode hmode =>
      obtain ⟨hforce, herror⟩ := modeOf_eq_ok hmode
      rw [← Except.ok.inj h]
      simp +contextual [Settings.Keeps, KeepsOutput, hfield, hforce, herror]

end Output

end ApiTypes
