import ApiTypes.Proofs.Hook.Paths
import ApiTypes.Proofs.Settings.Sections

/-!
# Settings that are shown and made again

What a settings file gives is stored without a look at it, so the settings made from a value may
hold anything, and showing them may fail. But if they can be shown, nothing is odd about them any
more: all sections are known, and the mode of the output has a name
(`ApiTypes.Settings.toValue_eq_ok_iff`). The value that shows them has an entry for each section,
and the settings made from it have the same formatter and the same output.

The hook is shown by its path, and is looked for again there. It is found again if it has been
found by names that are written down in the catalogue (`ApiTypes.Hook.find_again`). So showing
and making settings comes to rest after one turn (`ApiTypes.Settings.toValue_ofValue_toValue`).
-/

namespace ApiTypes

/-! ### The sections -/

theorem Formatter.Settings.ofEntries_toValue (f : Settings) :
    ∃ es, f.toValue = .map es ∧ ofEntries es = .ok f :=
  ⟨_, rfl, rfl⟩

/-- The settings of the output can be shown if their mode has a name, and then they are made
again from what shows them. -/
theorem Output.Settings.ofEntries_of_toValue {o : Settings} {v : Value} (h : o.toValue = .ok v) :
    ∃ es, v = .map es ∧ ofEntries es = .ok o := by
  obtain ⟨mode, hmode, h⟩ := Except.of_bind_eq_ok h
  rw [Stored.content_eq_ok_iff] at hmode
  refine ⟨_, (Except.ok.inj h).symm, ?_⟩
  have hname : modeOf (.str mode.name) = .ok o.mode := by
    rw [hmode, modeOf, Mode.ofName_name]
    rfl
  simp [ofEntries, Entries.field?, Entries.get?, hname, bind, Except.bind, pure, Except.pure]

namespace Settings

/-! ### Settings that can be shown -/

/-- The value that shows settings, from what shows their sections. -/
def shownAs (hook formatter output : Value) : Value :=
  .map [(.str "property_mapper", hook), (.str "formatter", formatter), (.str "output", output)]

/-- **When settings can be shown**, and as what. -/
theorem toValue_eq_ok_iff {s : Settings} {e : Value} : s.toValue = .ok e ↔
    s.shown = none ∧ ∃ hook f o output, s.hookValue = .ok hook ∧ s.formatter = .known f ∧
      s.output = .known o ∧ o.toValue = .ok output ∧ e = shownAs hook f.toValue output := by
  constructor
  · intro h
    cases hshown : s.shown with
    | some v => simp [toValue, hshown, throw, throwThe, MonadExceptOf.throw, bind, Except.bind] at h
    | none =>
      simp only [toValue, hshown] at h
      obtain ⟨hook, hhook, h⟩ := Except.of_bind_eq_ok h
      obtain ⟨f, hf, h⟩ := Except.of_bind_eq_ok h
      obtain ⟨o, ho, h⟩ := Except.of_bind_eq_ok h
      obtain ⟨output, houtput, h⟩ := Except.of_bind_eq_ok h
      rw [Stored.content_eq_ok_iff] at hf ho
      exact ⟨rfl, hook, f, o, output, hhook, hf, ho, houtput, (Except.ok.inj h).symm⟩
  · rintro ⟨hshown, hook, f, o, output, hhook, hf, ho, houtput, rfl⟩
    simp [toValue, hshown, hhook, hf, ho, houtput, bind, Except.bind, pure, Except.pure, shownAs]

/-! ### The hook -/

/-- **A value with a hook of the catalogue**: where its path leads to a hook, it does so by names
that are written down. A path that leads nowhere will do, and so will no path at all. -/
def HookDeclared (v : Value) : Prop :=
  ∀ es path named, v = .map es → (.str "property_mapper", .str path) ∈ es →
    Hook.find path.toList = .ok named → Hook.Declared path.toList

/-- What shows the hook gives one that is shown in the same way. -/
theorem setEntry_hookValue {v hook : Value} {s : Settings} (hdeclared : HookDeclared v)
    (hs : ofValue v = .ok s) (hhook : s.hookValue = .ok hook) :
    ∃ again, setEntry "property_mapper" hook {} = .ok { hook := again } ∧
      ∀ t : Settings, t.hook = again → t.hookValue = .ok hook := by
  have hnone : ∃ again, setEntry "property_mapper" .null {} = .ok { hook := again } ∧
      ∀ t : Settings, t.hook = again → t.hookValue = .ok .null :=
    ⟨.other .null, rfl, fun t ht => by simp [hookValue, ht, Value.truthy]⟩
  rw [hookValue] at hhook
  split at hhook
  · next named hnamed =>
    obtain ⟨es, path, hes, hmem, hfind⟩ := hook_eq_known hs hnamed
    obtain ⟨shown, hpath, hagain⟩ := Hook.find_again (hdeclared es path named hes hmem hfind) hfind
    rw [hpath] at hhook
    obtain rfl := Except.ok.inj hhook
    refine ⟨.known named, ?_, fun t ht => ?_⟩
    · rw [setEntry, String.toList_ofList, hagain]
      rfl
    · simp only [hookValue, ht, hpath, Except.map]
  · -- a value that is no hook is shown only if it counts as none
    split at hhook
    · exact absurd hhook (by simp)
    · exact Except.ok.inj hhook ▸ hnone
  · exact Except.ok.inj hhook ▸ hnone

/-- **Showing settings and making them comes to rest** after one turn: what shows the settings in
a value gives settings that it shows as well, however odd the value has been. -/
theorem toValue_ofValue_toValue {v e : Value} (hdeclared : HookDeclared v)
    (h : (ofValue v >>= toValue) = .ok e) : ∃ s, ofValue e = .ok s ∧ s.toValue = .ok e := by
  obtain ⟨s, hs, hshow⟩ := Except.of_bind_eq_ok h
  obtain ⟨-, hook, f, o, output, hhook, -, -, houtput, rfl⟩ := toValue_eq_ok_iff.1 hshow
  obtain ⟨again, hentry, hagain⟩ := setEntry_hookValue hdeclared hs hhook
  obtain ⟨fs, hfs, hf⟩ := f.ofEntries_toValue
  obtain ⟨os, rfl, ho⟩ := Output.Settings.ofEntries_of_toValue houtput
  have hformatter : ∀ t, setEntry "formatter" (.map fs) t = .ok { t with formatter := .known f } :=
    fun t => by rw [setEntry, hf]; rfl
  have houtput' : ∀ t, setEntry "output" (.map os) t = .ok { t with output := .known o } :=
    fun t => by rw [setEntry, ho]; rfl
  refine ⟨{ hook := again, formatter := .known f, output := .known o }, ?_, ?_⟩
  · simp only [ofValue, shownAs, setEntries, hentry, hfs, hformatter, houtput', bind, Except.bind]
  · exact toValue_eq_ok_iff.2 ⟨rfl, hook, f, o, .map os, hagain _ rfl, rfl, rfl, houtput, rfl⟩

/-- The sections may come in any order, with odd values in them and others between them. -/
theorem toValue_ofValue_toValue_odd :
    let v : Value := .map [
      (.str "output", .map [(.str "atomic_write", .int 0), (.str "mode", .str "force")]),
      (.str "property_mapper", .str "mappers:Nested.keep"),
      (.str "verbose", .bool true),
      (.str "formatter", .map [(.str "parser", .null), (.str "command", .str "prettier")])]
    let e : Value := .map [
      (.str "property_mapper", .str "mappers:Nested.keep"),
      (.str "formatter", .map [(.str "enabled", .bool false), (.str "command", .str "prettier"),
        (.str "parser", .null), (.str "config_path", .null)]),
      (.str "output", .map [(.str "mode", .str "force"),
        (.str "validate_before_write", .bool true), (.str "atomic_write", .int 0)])]
    HookDeclared v ∧ (ofValue v >>= toValue) = .ok e ∧
      ∃ s, ofValue e = .ok s ∧ s.toValue = .ok e := by
  intro v e
  have hdeclared : HookDeclared v := by
    intro es path named hes hmem _
    obtain rfl := Value.map.inj hes
    obtain rfl : path = "mappers:Nested.keep" := by simpa using hmem
    decide
  have h : (ofValue v >>= toValue) = .ok e := rfl
  exact ⟨hdeclared, h, toValue_ofValue_toValue hdeclared h⟩

end Settings

end ApiTypes
