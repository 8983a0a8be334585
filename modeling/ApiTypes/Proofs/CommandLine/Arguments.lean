import ApiTypes.CommandLine.Run
import ApiTypes.Proofs.Settings.Keeping

/-!
# Arguments without an option

Some options have a long name only, and take no value: the one to overwrite the output file, and
the one for a description of the command (`ApiTypes.CommandLine.LongOnly`). Such an option is
chosen only where its name is an argument (`ApiTypes.CommandLine.not_mem_read`), and an argument
that holds the name as the value of another option does not choose it.
-/

namespace ApiTypes

namespace CommandLine

/-- The name of the option to overwrite the output file. -/
def forceName : Text := "--force".toList

/-- The name of the option for a description of the command. -/
def helpName : Text := "--help".toList

/-- **An option with a single name**, which is a long one, and without a value. -/
structure LongOnly (name : Text) (choice : Choice) : Prop where
  /-- No option with a value makes the choice. -/
  valued : ∀ {n choose}, longNames.lookup n = some (.valued choose) →
    ∀ value, choose value ≠ choice
  /-- No other name makes it. -/
  flag : ∀ {n}, longNames.lookup n = some (.flag choice) → n = name
  /-- No letter with a value makes it. -/
  shortValued : ∀ {c choose}, shortNames.lookup c = some (.valued choose) →
    ∀ value, choose value ≠ choice
  /-- No other letter makes it. -/
  shortFlag : ∀ {c}, shortNames.lookup c ≠ some (.flag choice)

theorem mem_valued {n : Text} {choose : Text → Choice}
    (h : longNames.lookup n = some (.valued choose)) :
    choose ∈ [Choice.output, .config, .formatterConfig, .hook] := by
  have hmem := mem_of_lookup h
  simp only [longNames, List.mem_cons, Prod.mk.injEq, Named.valued.injEq, reduceCtorEq, and_false,
    List.not_mem_nil, or_false, false_or] at hmem
  rcases hmem with ⟨-, rfl⟩ | ⟨-, rfl⟩ | ⟨-, rfl⟩ | ⟨-, rfl⟩
  all_goals simp

theorem mem_shortValued {c : Char} {choose : Text → Choice}
    (h : shortNames.lookup c = some (.valued choose)) :
    choose ∈ [Choice.output, .config, .formatterConfig, .hook] := by
  have hmem := mem_of_lookup h
  simp only [shortNames, List.mem_cons, Prod.mk.injEq, Named.valued.injEq, reduceCtorEq, and_false,
    List.not_mem_nil, or_false] at hmem
  rcases hmem with ⟨-, rfl⟩ | ⟨-, rfl⟩
  all_goals simp

theorem eq_verbose_of_shortFlag {c : Char} {choice : Choice}
    (h : shortNames.lookup c = some (.flag choice)) : choice = .verbose := by
  have hmem := mem_of_lookup h
  simp only [shortNames, List.mem_cons, Prod.mk.injEq, Named.flag.injEq, reduceCtorEq, and_false,
    List.not_mem_nil, or_false, false_or] at hmem
  exact hmem.2

/-- An option without a value has a single name if it has one, and no letter. -/
theorem longOnly_of_flag {name : Text} {choice : Choice} (hverbose : choice ≠ .verbose)
    (hvalued : ∀ choose ∈ [Choice.output, .config, .formatterConfig, .hook],
      ∀ value, choose value ≠ choice)
    (hflag : ∀ n, (n, Named.flag choice) ∈ longNames → n = name) : LongOnly name choice where
  valued h := hvalued _ (mem_valued h)
  flag h := hflag _ (mem_of_lookup h)
  shortValued h := hvalued _ (mem_shortValued h)
  shortFlag h := hverbose (eq_verbose_of_shortFlag h)

theorem longOnly_force : LongOnly forceName .force := by
  refine longOnly_of_flag (by simp) (by simp) fun n hmem => ?_
  simp only [longNames, List.mem_cons, Prod.mk.injEq, Named.flag.injEq, reduceCtorEq, and_false,
    List.not_mem_nil, or_false, false_or, and_true] at hmem
  exact hmem

theorem longOnly_help : LongOnly helpName .help := by
  refine longOnly_of_flag (by simp) (by simp) fun n hmem => ?_
  simp only [longNames, List.mem_cons, Prod.mk.injEq, Named.flag.injEq, reduceCtorEq, and_false,
    List.not_mem_nil, or_false, false_or, and_true] at hmem
  exact hmem

/-- A choice is not made. -/
structure Chosen.Without (choice : Choice) (c : Chosen) : Prop where
  /-- Not by the argument. -/
  choices : choice ∉ c.choices
  /-- Nor with the next one. -/
  awaiting : ∀ name choose, c.awaiting = some (name, choose) → ∀ value, choose value ≠ choice

variable {name : Text} {choice : Choice}

/-- No letter stands for it. -/
theorem without_readShort (hlong : LongOnly name choice) {t : Text} {c : Chosen}
    (h : readShort t = .ok c) : c.Without choice := by
  induction t generalizing c with
  | nil =>
    rw [readShort] at h
    rw [← Except.ok.inj h]
    exact ⟨by simp, by simp⟩
  | cons letter rest ih =>
    rw [readShort] at h
    split at h
    · exact absurd h (by simp)
    · next flag hlookup =>
      have hne : choice ≠ flag := by
        rintro rfl
        exact hlong.shortFlag hlookup
      obtain ⟨d, hrest, rfl⟩ := Except.of_map_eq_ok h
      obtain ⟨hchoices, hawaiting⟩ := ih hrest
      refine ⟨?_, hawaiting⟩
      rw [List.mem_cons, not_or]
      exact ⟨hne, hchoices⟩
    · next choose hlookup =>
      have hchoose := hlong.shortValued hlookup
      split at h
      · rw [← Except.ok.inj h]
        refine ⟨by simp, fun name choose' heq value => ?_⟩
        obtain ⟨-, rfl⟩ := Prod.mk.inj (Option.some.inj heq)
        exact hchoose value
      · rw [← Except.ok.inj h]
        exact ⟨by simpa using (hchoose rest).symm, by simp⟩

theorem eq_of_splitValue {argument name : Text} (h : splitValue argument = (name, none)) :
    argument = name := by
  unfold splitValue at h
  split at h
  · exact (Prod.mk.inj h).1
  · exact absurd (Prod.mk.inj h).2 (by simp)

theorem without_readOption (hlong : LongOnly name choice) {argument : Text} {c : Chosen}
    (hname : argument ≠ name) (h : readOption argument = .ok c) : c.Without choice := by
  unfold readOption at h
  split at h
  next name' value? hsplit =>
  split at h
  · next choose value hlookup =>
    rw [← Except.ok.inj h]
    exact ⟨by simpa using (hlong.valued hlookup value).symm, by simp⟩
  · next choose hlookup =>
    rw [← Except.ok.inj h]
    refine ⟨by simp, fun name choose' heq value => ?_⟩
    obtain ⟨-, rfl⟩ := Prod.mk.inj (Option.some.inj heq)
    exact hlong.valued hlookup value
  · exact absurd h (by simp)
  · next flag hlookup =>
    have hne : choice ≠ flag := by
      rintro rfl
      rw [eq_of_splitValue hsplit] at hname
      exact hname (hlong.flag hlookup)
    rw [← Except.ok.inj h]
    exact ⟨by simpa using hne, by simp⟩
  · split at h
    · exact absurd h (by simp)
    · exact without_readShort hlong h

/-- **Without the name of the option among the arguments**, it is not chosen. -/
theorem not_mem_read (hlong : LongOnly name choice) {arguments : List Text}
    {choices : List Choice} {names : List Text} (hname : name ∉ arguments)
    (h : read arguments = .ok (choices, names)) : choice ∉ choices := by
  fun_induction read arguments generalizing choices names with
  | case1
  | case2 =>
    obtain ⟨rfl, -⟩ := Prod.mk.inj (Except.ok.inj h)
    simp
  | case3
  | case5 => exact absurd h (by simp)
  | case4 argument rest _ _ chosen hoption ih =>
    rw [List.mem_cons, not_or] at hname
    obtain ⟨r, hrest, heq⟩ := Except.of_map_eq_ok h
    obtain ⟨rfl, -⟩ := Prod.mk.inj heq
    have hchosen := (without_readOption hlong (Ne.symm hname.1) hoption).choices
    simpa using ⟨hchosen, ih hname.2 hrest⟩
  | case6 argument _ _ chosen _ choose hoption value rest ih =>
    simp only [List.mem_cons, not_or] at hname
    obtain ⟨r, hrest, heq⟩ := Except.of_map_eq_ok h
    obtain ⟨rfl, -⟩ := Prod.mk.inj heq
    obtain ⟨hchosen, hawaiting⟩ := without_readOption hlong (Ne.symm hname.1) hoption
    simpa using ⟨hchosen, (hawaiting _ _ rfl value).symm, ih hname.2.2 hrest⟩
  | case7 argument rest _ _ ih =>
    rw [List.mem_cons, not_or] at hname
    obtain ⟨r, hrest, heq⟩ := Except.of_map_eq_ok h
    obtain ⟨rfl, -⟩ := Prod.mk.inj heq
    exact ih hname.2 hrest

theorem force_not_mem_read {arguments : List Text} {choices : List Choice} {names : List Text}
    (hname : forceName ∉ arguments) (h : read arguments = .ok (choices, names)) :
    .force ∉ choices :=
  not_mem_read longOnly_force hname h

/-- What only one choice changes stays as it is without that choice. -/
theorem ofChoices_of_not_mem {α : Type} (field : Options → α)
    (hfield : ∀ o c, c ≠ choice → field (o.choose c) = field o) {choices : List Choice}
    (h : choice ∉ choices) : field (Options.ofChoices choices) = field {} := by
  have hfold : ∀ o : Options, field (choices.foldl Options.choose o) = field o := by
    induction choices with
    | nil => exact fun o => rfl
    | cons c cs ih =>
      intro o
      rw [List.mem_cons, not_or] at h
      rw [List.foldl_cons, ih h.2, hfield o c (Ne.symm h.1)]
  exact hfold {}

theorem force_ofChoices {choices : List Choice} (h : .force ∉ choices) :
    (Options.ofChoices choices).force = false := by
  refine ofChoices_of_not_mem Options.force (fun o c hc => ?_) h
  cases c with
  | force => exact absurd rfl hc
  | _ => rfl

theorem help_ofChoices {choices : List Choice} (h : .help ∉ choices) :
    (Options.ofChoices choices).help = false := by
  refine ofChoices_of_not_mem Options.help (fun o c hc => ?_) h
  cases c with
  | help => exact absurd rfl hc
  | _ => rfl

/-- The options of a run are those that its arguments choose, and the document is the one that
they name, if they name one. -/
theorem readArguments_eq_ok {directory source : Text} {tree : FileTree} {arguments : List Text}
    {o : Options} (h : readArguments directory tree arguments = .ok (o, source)) :
    ∃ choices names, read arguments = .ok (choices, names) ∧ o = Options.ofChoices choices ∧
      (o.help = false → source = names.headD Document.standardInput) := by
  unfold readArguments at h
  simp only [bind, Except.bind, pure, Except.pure, throw, throwThe, MonadExceptOf.throw] at h
  cases hread : read arguments with
  | error e =>
    rw [hread] at h
    exact absurd h (by simp)
  | ok r =>
    obtain ⟨choices, names⟩ := r
    rw [hread] at h
    refine ⟨choices, names, rfl, ?_⟩
    dsimp only at h
    -- whatever is checked, the options and the name stay the same
    repeat' split at h
    all_goals first
      | obtain ⟨rfl, rfl⟩ := Prod.mk.inj (Except.ok.inj h)
      | exact absurd h (by simp)
    all_goals first
      | exact ⟨rfl, fun _ => rfl⟩
      | next hhelp => exact ⟨rfl, fun hnot => absurd (hhelp.symm.trans hnot) (by simp)⟩

end CommandLine

end ApiTypes
