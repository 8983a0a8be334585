import ApiTypes.Proofs.CommandLine.Arguments

/-!
# Runs that keep the output file

A run of the command whose output file is already there leaves everything as it was, unless
an argument or the settings file lets it overwrite the file
(`ApiTypes.CommandLine.tree_run_of_get_output`). Whether the settings file does is a matter
of its sections for the output (`ApiTypes.CommandLine.KeepsFile`): a mode that is no string
keeps a file that is written all or nothing (`ApiTypes.CommandLine.tree_run_nullMode`), and it
overwrites a file that is written in place (`ApiTypes.CommandLine.tree_run_nullModeInPlace`).
With a string that names neither mode a run ends at its settings, and the file is kept.
-/

namespace ApiTypes

namespace CommandLine

/-! ### The settings of a run -/

theorem chooseHook_eq_ok {o : Options} {s s' : Settings} (h : chooseHook o s = .ok s') :
    s'.output = s.output := by
  unfold chooseHook at h
  split at h
  · rw [Except.ok.inj h]
  · split at h
    · exact absurd h (by simp)
    · rw [← Except.ok.inj h]

theorem chooseRest_eq_ok {o : Options} {s s' : Settings} (hforce : o.force = false)
    (h : chooseRest o s = .ok s') : s'.output = s.output := by
  unfold chooseRest at h
  simp only [bind, Except.bind, pure, Except.pure, hforce, Bool.false_eq_true, if_false] at h
  -- the other two choices are those of the formatter
  repeat' split at h
  all_goals first
    | rw [← Except.ok.inj h]
    | exact absurd h (by simp)

/-- The settings of a run before the options choose. -/
def storedSettings (directory : Text) (tree : FileTree) (o : Options) : Except Ending Settings :=
  match o.config with
  | none => .ok {}
  | some path => readSettings directory tree path

theorem settings_eq (directory : Text) (tree : FileTree) (o : Options) :
    settings directory tree o = (storedSettings directory tree o).bind fun s₀ =>
      (chooseHook o s₀).bind fun s₁ =>
        match chooseRest o s₁ with
        | .error e => .error (.broken e)
        | .ok s => .ok s := by
  unfold settings storedSettings
  cases o.config <;> rfl

/-- The options do not choose the output section, unless they choose to overwrite. -/
theorem settings_eq_ok {directory : Text} {tree : FileTree} {o : Options} {s : Settings}
    (hforce : o.force = false) (h : settings directory tree o = .ok s) :
    ∃ s₀, storedSettings directory tree o = .ok s₀ ∧ s.output = s₀.output := by
  rw [settings_eq] at h
  obtain ⟨s₀, hstored, h⟩ := Except.of_bind_eq_ok h
  obtain ⟨s₁, hhook, h⟩ := Except.of_bind_eq_ok h
  split at h
  · exact absurd h (by simp)
  · next s₂ hrest =>
    refine ⟨s₀, hstored, ?_⟩
    rw [← Except.ok.inj h, chooseRest_eq_ok hforce hrest, chooseHook_eq_ok hhook]

/-- The value in a settings file. -/
def settingsValue? (directory : Text) (tree : FileTree) (path : Text) : Option Value :=
  match tree.read ((PathName.ofText path).inFull directory) with
  | .error _ => none
  | .ok bytes =>
    match Text.decodeUtf8 bytes with
    | .error _ => none
    | .ok t => Json.parse? (Text.unifyLineEnds t)

theorem readSettings_eq_ok {directory path : Text} {tree : FileTree} {s : Settings}
    (h : readSettings directory tree path = .ok s) :
    ∃ v, settingsValue? directory tree path = some v ∧ Settings.ofValue v = .ok s := by
  simp only [readSettings] at h
  split at h
  · exact absurd h (by simp)
  · next bytes hbytes =>
    split at h
    · exact absurd h (by simp)
    · next t htext =>
      split at h
      · exact absurd h (by simp)
      · next v hparse =>
        split at h
        · exact absurd h (by simp)
        · next s' hvalue =>
          rw [Except.ok.inj h] at hvalue
          exact ⟨v, by simp only [settingsValue?, hbytes, htext, hparse], hvalue⟩

/-- **A settings file with which an output file that is there is kept**: every section for the
output in it does so. -/
def KeepsFile (v : Value) : Prop :=
  ∀ es fields, v = .map es → (.str "output", .map fields) ∈ es → Output.KeepsOutput fields

theorem keeps_of_settings {directory : Text} {tree : FileTree} {o : Options} {s : Settings}
    {c : Output.Settings} (hforce : o.force = false)
    (hfile : ∀ path v, o.config = some path → settingsValue? directory tree path = some v →
      KeepsFile v)
    (h : settings directory tree o = .ok s) (hc : s.output = .known c) : c.Keeps := by
  obtain ⟨s₀, hstored, houtput⟩ := settings_eq_ok hforce h
  rw [houtput] at hc
  have hdefault : Output.Settings.Keeps {} := ⟨by simp, .inr rfl⟩
  unfold storedSettings at hstored
  split at hstored
  · rw [← Except.ok.inj hstored] at hc
    rwa [← Stored.known.inj hc]
  · next path hconfig =>
    obtain ⟨v, hv, hvalue⟩ := readSettings_eq_ok hstored
    rcases Settings.ofValue_eq_ok hvalue hc with rfl | ⟨es, fields, hes, hmem, hfields⟩
    · exact hdefault
    · exact (Output.keeps_iff hfields).2 (hfile path v hconfig hv es fields hes hmem)

/-! ### Runs -/

theorem tree_deliver {directory path module : Text} {tree : FileTree} {s : Settings}
    (hkeeps : ∀ c, s.output = .known c → c.Keeps)
    (hexists : tree.exists ((PathName.ofText path).inFull directory) = .ok true) :
    (deliver directory tree s path module).2 = tree := by
  unfold deliver
  split
  · rfl
  · next c hc =>
    rw [Output.save_of_keeps (hkeeps c (Stored.content_eq_ok_iff.1 hc)) hexists]

/-- **A run keeps an output file that is there.** Without the option to overwrite, and with a
settings file that keeps it, a run whose output file is there leaves the whole tree as it was,
whatever the document, the hook and the formatter do. -/
theorem tree_run_of_get_output (directory : Text) (tree : FileTree) (input : Text)
    (outcomes : List Formatter.Outcome) (arguments : List Text) (hforce : forceName ∉ arguments)
    (hfile : ∀ o source, readArguments directory tree arguments = .ok (o, source) →
      ∀ path v, o.config = some path → settingsValue? directory tree path = some v → KeepsFile v)
    (houtput : ∀ o source, readArguments directory tree arguments = .ok (o, source) →
      ∀ path, o.output = some path →
        ∃ p bytes, tree.get ((PathName.ofText path).inFull directory) = .ok (p, .file bytes)) :
    (run directory tree input outcomes arguments).tree = tree := by
  unfold run
  split
  · rfl
  · next o source hread =>
    have hnot : o.force = false := by
      obtain ⟨choices, names, hchoices, rfl, -⟩ := readArguments_eq_ok hread
      exact force_ofChoices (force_not_mem_read hforce hchoices)
    split
    · rfl
    · split
      · rfl
      · next s hsettings =>
        have hkeeps : ∀ c, s.output = .known c → c.Keeps := fun c hc =>
          keeps_of_settings hnot (hfile o source hread) hsettings hc
        split
        · rfl
        · split
          · dsimp only
            split <;> rfl
          · next path hpath =>
            obtain ⟨p, bytes, hget⟩ := houtput o source hread path hpath
            have htree : ∀ module, (deliver directory tree s path module).2 = tree := fun module =>
              tree_deliver hkeeps (FileTree.exists_of_get hget)
            split
            · next _ after hdeliver =>
              exact (congrArg Prod.snd hdeliver).symm.trans (htree _)
            · next _ _ after hdeliver =>
              exact (congrArg Prod.snd hdeliver).symm.trans (htree _)

/-- A tree with a document, an output file, and a settings file with the text `settings`. -/
def treeWith (settings : String) : FileTree :=
  ⟨[(["doc.json".toList],
      .file (Text.encodeUtf8 "\x7b\"swagger\": \"2.0\", \"definitions\": \x7b\x7d\x7d".toList)),
    (["cfg.json".toList], .file (Text.encodeUtf8 settings.toList)),
    (["out.ts".toList], .file (Text.encodeUtf8 "old".toList))]⟩

/-- Settings with a mode that is none. -/
def nullMode : String := "\x7b\"output\": \x7b\"mode\": null\x7d\x7d"

/-- Settings with a mode that is none, with which the output file is written in place. -/
def nullModeInPlace : String :=
  "\x7b\"output\": \x7b\"mode\": null, \"atomic_write\": false\x7d\x7d"

/-- Arguments that choose the output file and the settings file. -/
def chosenArguments : List Text :=
  ["-o".toList, "out.ts".toList, "-c".toList, "cfg.json".toList, "doc.json".toList]

theorem readArguments_chosenArguments :
    readArguments "/w".toList (treeWith nullMode) chosenArguments =
      .ok ({ output := some "out.ts".toList, config := some "cfg.json".toList },
        "doc.json".toList) := by
  decide +kernel

/-- With a mode that is none, an output file that is written all or nothing is kept. -/
theorem tree_run_nullMode : forceName ∉ chosenArguments ∧
    (run "/w".toList (treeWith nullMode) [] [] chosenArguments).tree = treeWith nullMode := by
  have hforce : forceName ∉ chosenArguments := by decide +kernel
  have hvalue : settingsValue? "/w".toList (treeWith nullMode) "cfg.json".toList =
      some (.map [(.str "output", .map [(.str "mode", .null)])]) := by
    decide +kernel
  refine ⟨hforce, tree_run_of_get_output "/w".toList (treeWith nullMode) [] []
    chosenArguments hforce ?_ ?_⟩
  · intro o source hread path v hconfig hv es fields hes hmem
    obtain ⟨rfl, -⟩ := Prod.mk.inj (Except.ok.inj (readArguments_chosenArguments.symm.trans hread))
    obtain rfl : "cfg.json".toList = path := Option.some.inj hconfig
    rw [hvalue] at hv
    obtain rfl := Option.some.inj hv
    obtain rfl := Value.map.inj hes
    obtain rfl : fields = [(.str "mode", .null)] := by simpa using hmem
    exact ⟨by decide +kernel, .inl (by decide +kernel)⟩
  · intro o source hread path houtput
    obtain ⟨rfl, -⟩ := Prod.mk.inj (Except.ok.inj (readArguments_chosenArguments.symm.trans hread))
    obtain rfl : "out.ts".toList = path := Option.some.inj houtput
    exact ⟨["out.ts".toList], Text.encodeUtf8 "old".toList, by decide +kernel⟩

/-- With a mode that is none, an output file that is written in place is overwritten. -/
theorem tree_run_nullModeInPlace : forceName ∉ chosenArguments ∧
    (treeWith nullModeInPlace).bytes? ["out.ts".toList] = some (Text.encodeUtf8 "old".toList) ∧
    (run "/w".toList (treeWith nullModeInPlace) [] [] chosenArguments).tree.bytes?
      ["out.ts".toList] ≠ some (Text.encodeUtf8 "old".toList) := by
  decide +kernel

end CommandLine

end ApiTypes
