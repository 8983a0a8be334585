import ApiTypes.Settings.Basic

/-!
# Where the sections of settings come from

Settings are made from the entries of a value, one after the other. An entry makes a section
known only if it is the entry of that section, so what is known at the end has been made by such
an entry, or it was known from the start (`ApiTypes.Settings.known_of_setEntries`). From the
start the output has its own settings, and there is no hook:

| section | comes from | theorem |
|---|---|---|
| the hook | the path in an entry | `ApiTypes.Settings.hook_eq_known` |
| the output | the mapping in an entry, or no entry | `ApiTypes.Settings.ofValue_eq_ok` |
-/

namespace ApiTypes

theorem Except.of_map_eq_ok {α β ε : Type} {x : Except ε α} {f : α → β} {b : β}
    (h : x.map f = .ok b) : ∃ a, x = .ok a ∧ f a = b := by
  cases x with
  | error e => exact absurd h (by simp [Except.map])
  | ok a => exact ⟨a, rfl, Except.ok.inj h⟩

theorem Except.of_bind_eq_ok {α β ε : Type} {x : Except ε α} {f : α → Except ε β} {b : β}
    (h : x.bind f = .ok b) : ∃ a, x = .ok a ∧ f a = .ok b := by
  cases x with
  | error e => exact absurd h (by simp [Except.bind])
  | ok a => exact ⟨a, rfl, h⟩

namespace Settings

theorem overwrite_ne_known {α : Type} (x : Stored α) (v : Value) (a : α) :
    x.overwrite v ≠ .known a := by
  cases x <;> simp [Stored.overwrite]

theorem ofField_ne_known {α : Type} (es : Entries) (name : String) (a : α) :
    Stored.ofField es name ≠ .known a := by
  unfold Stored.ofField
  split <;> simp

/-! ### One entry -/

/-- **What an entry does** to the settings, if it does not fail. -/
inductive Entered : String → Value → Settings → Settings → Prop
  /-- A path gives the hook that is found at it. -/
  | hook {path : String} {named : Hook.Named} {s : Settings} :
      Hook.find path.toList = .ok named →
      Entered "property_mapper" (.str path) s { s with hook := .known named }
  /-- Any other value is stored in the place of the hook. -/
  | noHook {v : Value} {s : Settings} :
      Entered "property_mapper" v s { s with hook := .other v }
  /-- A mapping gives the settings of the formatter. -/
  | formatter {es : Entries} {f : Formatter.Settings} {s : Settings} :
      Formatter.Settings.ofEntries es = .ok f →
      Entered "formatter" (.map es) s { s with formatter := .known f }
  /-- Any other value is stored in their place. -/
  | noFormatter {v : Value} {s : Settings} :
      Entered "formatter" v s { s with formatter := s.formatter.overwrite v }
  /-- A mapping gives the settings of the output. -/
  | output {es : Entries} {o : Output.Settings} {s : Settings} :
      Output.Settings.ofEntries es = .ok o →
      Entered "output" (.map es) s { s with output := .known o }
  /-- Any other value is stored in their place. -/
  | noOutput {v : Value} {s : Settings} :
      Entered "output" v s { s with output := s.output.overwrite v }
  /-- The name by which the settings are shown is taken. -/
  | shown {v : Value} {s : Settings} : Entered "to_dict" v s { s with shown := some v }
  /-- All settings are replaced. -/
  | all {es : Entries} {s : Settings} : Entered "__dict__" (.map es) s (replaced es)
  /-- Nothing happens. -/
  | unknown {name : String} {v : Value} {s : Settings} : Entered name v s s

theorem entered_of_setEntry {name : String} {v : Value} {s s' : Settings}
    (h : setEntry name v s = .ok s') : Entered name v s s' := by
  unfold setEntry at h
  split at h
  · obtain ⟨named, hfind, rfl⟩ := Except.of_map_eq_ok h
    exact .hook hfind
  · exact Except.ok.inj h ▸ .noHook
  · obtain ⟨f, hf, rfl⟩ := Except.of_map_eq_ok h
    exact .formatter hf
  · exact Except.ok.inj h ▸ .noFormatter
  · obtain ⟨o, ho, rfl⟩ := Except.of_map_eq_ok h
    exact .output ho
  · exact Except.ok.inj h ▸ .noOutput
  · exact Except.ok.inj h ▸ .shown
  · exact Except.ok.inj h ▸ .all
  · exact absurd h (by simp)
  · exact absurd h (by simp)
  · exact absurd h (by simp)
  · exact Except.ok.inj h ▸ .unknown

/-- The output section after an entry is the one before it, or made by the entry. -/
theorem Entered.output_eq_known {name : String} {v : Value} {s s' : Settings}
    {o : Output.Settings} (h : Entered name v s s') (ho : s'.output = .known o) :
    s.output = .known o ∨
      name = "output" ∧ ∃ fields, v = .map fields ∧ Output.Settings.ofEntries fields = .ok o := by
  cases h with
  | output hmade => exact .inr ⟨rfl, _, rfl, Stored.known.inj ho ▸ hmade⟩
  | noOutput => exact absurd ho (overwrite_ne_known _ _ _)
  | all => exact absurd ho (ofField_ne_known _ _ _)
  | _ => exact .inl ho

/-- The hook after an entry is the one before it, or found at the path in the entry. -/
theorem Entered.hook_eq_known {name : String} {v : Value} {s s' : Settings}
    {named : Hook.Named} (h : Entered name v s s') (hn : s'.hook = .known named) :
    s.hook = .known named ∨
      name = "property_mapper" ∧ ∃ path, v = .str path ∧ Hook.find path.toList = .ok named := by
  cases h with
  | hook hfind => exact .inr ⟨rfl, _, rfl, Stored.known.inj hn ▸ hfind⟩
  | noHook => exact absurd hn (by simp)
  | all => exact absurd hn (by simp [replaced])
  | _ => exact .inl hn

/-! ### All entries -/

/-- **A known section comes from an entry** or from the start, if that is so for each entry by
itself. -/
theorem known_of_setEntries {α : Type} {get : Settings → Stored α}
    {made : String → Value → α → Prop}
    (hstep : ∀ {name v s s' x}, Entered name v s s' → get s' = .known x →
      get s = .known x ∨ made name v x)
    {es : Entries} {s s' : Settings} {x : α} (h : setEntries s es = .ok s')
    (hx : get s' = .known x) :
    get s = .known x ∨ ∃ name v, (.str name, v) ∈ es ∧ made name v x := by
  induction es generalizing s with
  | nil =>
    rw [← Except.ok.inj h] at hx
    exact .inl hx
  | cons e es ih =>
    obtain ⟨key, v⟩ := e
    cases key with
    | str name =>
      obtain ⟨s₁, hentry, hrest⟩ := Except.of_bind_eq_ok h
      rcases ih hrest with hs | ⟨name', v', hmem, hmade⟩
      · rcases hstep (entered_of_setEntry hentry) hs with hs | hmade
        · exact .inl hs
        · exact .inr ⟨name, v, List.mem_cons_self, hmade⟩
      · exact .inr ⟨name', v', List.mem_cons_of_mem _ hmem, hmade⟩
    | _ => exact absurd h (by simp [setEntries])

/-- Settings are made from the entries of a mapping. -/
theorem exists_of_ofValue {v : Value} {s : Settings} (h : ofValue v = .ok s) :
    ∃ es, v = .map es ∧ setEntries {} es = .ok s := by
  unfold ofValue at h
  split at h
  · next es => exact ⟨es, rfl, h⟩
  · exact absurd h (by simp)

/-- **The output section of the settings in a value** is the one of an entry for it, or the one
of settings without a file. -/
theorem ofValue_eq_ok {v : Value} {s : Settings} {c : Output.Settings} (h : ofValue v = .ok s)
    (hc : s.output = .known c) : c = {} ∨ ∃ es fields, v = .map es ∧
      (.str "output", .map fields) ∈ es ∧ Output.Settings.ofEntries fields = .ok c := by
  obtain ⟨es, rfl, hes⟩ := exists_of_ofValue h
  rcases known_of_setEntries Entered.output_eq_known hes hc with
    hs | ⟨name, v, hmem, rfl, fields, rfl, hfields⟩
  · exact .inl (Stored.known.inj hs).symm
  · exact .inr ⟨es, fields, rfl, hmem, hfields⟩

/-- **The hook of the settings in a value** is the one at the path in an entry for it. -/
theorem hook_eq_known {v : Value} {s : Settings} {named : Hook.Named} (h : ofValue v = .ok s)
    (hn : s.hook = .known named) : ∃ es path, v = .map es ∧
      (.str "property_mapper", .str path) ∈ es ∧ Hook.find path.toList = .ok named := by
  obtain ⟨es, rfl, hes⟩ := exists_of_ofValue h
  rcases known_of_setEntries Entered.hook_eq_known hes hn with
    hs | ⟨name, v, hmem, rfl, path, rfl, hfind⟩
  · exact absurd hs (by simp)
  · exact ⟨es, path, rfl, hmem, hfind⟩

end Settings

end ApiTypes
