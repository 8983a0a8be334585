import ApiTypes.Proofs.CommandLine.Effects
import ApiTypes.Proofs.Formatter.Fallback

/-!
# What is printed, and what is written

A run without an output file prints its module, and one with an output file writes the same module
there. The two do not always agree (`ApiTypes.CommandLine.written_eq_printed_iff`). What is printed
always gets a line feed, and what is written only if there is none at its end; and what is printed
has no control sequences. So a module that ends in a line feed is printed with an empty line behind
it (`ApiTypes.CommandLine.written_ne_printed`).

Only the formatter makes such modules: as it is generated, a module ends in a brace
(`ApiTypes.CommandLine.written_eq_printed_of_unformatted`).

Texts are compared by their encodings. Modules with a character that takes the place of a surrogate
(`ApiTypes.Text.ofCodePoint`) are left out: neither run ends as it should with one.
-/

namespace ApiTypes

namespace CommandLine

variable {directory path : Text} {tree : FileTree} {o : Options} {s : Settings}

/-! ### Arguments that differ in the output file -/

/-- **Arguments with an output file**, which are otherwise the same as arguments without one. No
description of the command is wanted. -/
inductive WithOutput (path : Text) (a b : List Text) : Prop
  /-- The choices are the same but for the output file, and so is the name of the document. -/
  | intro {choices choices' : List Choice} {names : List Text} :
      read a = .ok (choices, names) → read b = .ok (choices', names) →
      (Options.ofChoices choices).output = none → (Options.ofChoices choices).help = false →
      Options.ofChoices choices' = { Options.ofChoices choices with output := some path } →
      WithOutput path a b

/-- Where no output file is chosen, it makes no difference to the other choices. -/
theorem foldl_choose_output {choices : List Choice} (chosen : Option Text) :
    ∀ o : Options, (choices.foldl Options.choose o).output = none →
      choices.foldl Options.choose { o with output := chosen } =
        { choices.foldl Options.choose o with output := chosen } := by
  induction choices generalizing chosen with
  | nil => exact fun o _ => rfl
  | cons c cs ih =>
    intro o h
    rw [List.foldl_cons] at h
    cases c with
    | output p =>
      -- the output file that is chosen here would still be chosen in the end
      have hchosen := congrArg Options.output (ih (some p) _ h)
      exact absurd (h.symm.trans hchosen) (by simp)
    | _ => exact ih chosen _ h

/-- The output file may be chosen in front of all other arguments. -/
theorem withOutput_cons {a : List Text} {choices : List Choice} {names : List Text}
    (h : read a = .ok (choices, names)) (houtput : (Options.ofChoices choices).output = none)
    (hhelp : (Options.ofChoices choices).help = false) (path : Text) :
    WithOutput path a ("-o".toList :: path :: a) := by
  have hmap : read ("-o".toList :: path :: a) =
      (read a).map fun r => (Choice.output path :: r.1, r.2) := rfl
  have hread : read ("-o".toList :: path :: a) = .ok (.output path :: choices, names) := by
    rw [hmap, h]
    rfl
  exact .intro h hread houtput hhelp (foldl_choose_output (some path) {} houtput)

/-- The settings do not depend on the output file. -/
theorem settings_output (directory : Text) (tree : FileTree) (o : Options) (output : Option Text) :
    settings directory tree { o with output } = settings directory tree o := rfl

/-! ### Two runs -/

/-- **A run that ends as it should** has produced a module, unless a description of the command is
wanted, and has printed it or has written it to the output file. -/
theorem run_of_code_eq_zero {input : Text} {outcomes : List Formatter.Outcome}
    {arguments : List Text} {choices : List Choice} {names : List Text}
    (hread : read arguments = .ok (choices, names))
    (hhelp : (Options.ofChoices choices).help = false)
    (hcode : (run directory tree input outcomes arguments).ending.code = 0) :
    ∃ s module session,
      Prepared directory tree arguments (Options.ofChoices choices)
        (names.headD Document.standardInput) s ∧
      (produce directory tree input (names.headD Document.standardInput) s).run { outcomes } =
        (.ok module, session) ∧
      ((Options.ofChoices choices).output = none →
        (run directory tree input outcomes arguments).output =
          Text.stripControls module ++ ['\n']) ∧
      ∀ path, (Options.ofChoices choices).output = some path →
        tree.Rewritten (outputName directory path) (Text.encodeUtf8 (endLine module))
          (run directory tree input outcomes arguments).tree := by
  have hcourse := course_run directory tree input outcomes arguments
  generalize run directory tree input outcomes arguments = r at hcourse hcode ⊢
  have hdone : r.ending = .done := Ending.code_eq_zero_iff.1 hcode
  -- the options of the run are those of the choices
  have hchosen : ∀ {o source}, readArguments directory tree arguments = .ok (o, source) →
      o = Options.ofChoices choices ∧ source = names.headD Document.standardInput := by
    intro o source h
    obtain ⟨choices', names', hread', rfl, hsource⟩ := readArguments_eq_ok h
    obtain ⟨rfl, rfl⟩ := Prod.mk.inj (Except.ok.inj (hread'.symm.trans hread))
    exact ⟨rfl, hsource hhelp⟩
  cases hcourse with
  | misused h => exact absurd hdone (failsOnly_readArguments _ _ _ _ h)
  | helped h hwanted =>
    obtain ⟨rfl, -⟩ := hchosen h
    exact absurd (hwanted.symm.trans hhelp) (by simp)
  | unsettled _ _ h => exact absurd hdone (failsOnly_settings _ _ _ _ h)
  | unproduced
  | undelivered => exact absurd hdone (Ending.ofFailure_ne_done _)
  | unprinted => exact absurd hdone (by simp)
  | printed hprepared hproduce houtput =>
    obtain ⟨rfl, rfl⟩ := hchosen hprepared.arguments
    refine ⟨_, _, _, hprepared, hproduce, fun _ => rfl, fun path hpath => ?_⟩
    exact absurd (houtput.symm.trans hpath) (by simp)
  | delivered hprepared hproduce houtput hdeliver =>
    obtain ⟨rfl, rfl⟩ := hchosen hprepared.arguments
    refine ⟨_, _, _, hprepared, hproduce, fun hnone => ?_, fun path hpath => ?_⟩
    · exact absurd (houtput.symm.trans hnone) (by simp)
    · obtain rfl := Option.some.inj (houtput.symm.trans hpath)
      rcases deliver_cases directory tree _ _ _ with ⟨c, -, hsaved⟩ | ⟨e, herror⟩
      · rw [hdeliver] at hsaved
        cases hsaved with
        | written hrewritten _ => exact hrewritten
      · exact absurd (hdeliver.symm.trans herror) (by simp)

/-- A module with a line feed at its end is the module without its control sequences and with a
line feed exactly if it has no control sequences, and no line feed of its own. -/
theorem endLine_eq_iff (module : Text) :
    endLine module = Text.stripControls module ++ ['\n'] ↔
      module.getLast? ≠ some '\n' ∧ Text.stripControls module = module := by
  unfold endLine
  constructor
  · intro h
    by_cases hend : module.getLast? = some '\n'
    · -- control sequences are too long for one line feed to make up for them
      rw [if_pos hend] at h
      have hlength := congrArg List.length h
      rw [List.length_append, List.length_singleton] at hlength
      rcases Text.stripControls_eq_or_length module with heq | hshort
      · rw [heq] at hlength
        omega
      · omega
    · rw [if_neg hend] at h
      exact ⟨hend, (List.append_cancel_right h).symm⟩
  · rintro ⟨hend, hstrip⟩
    rw [if_neg hend, hstrip]

/-! ### Modules without a formatter -/

/-- What is generated ends in a brace. -/
theorem getLast?_moduleText (d : Dialect) (schemas : Entries) :
    (TypeScript.moduleText d schemas).getLast? = some '\x7d' := by
  have htail : (TypeScript.moduleTail d).getLast? = some '\x7d' := by cases d <;> rfl
  rw [TypeScript.moduleText, List.getLast?_append, htail]
  rfl

/-- Before it is formatted, a module is what is generated. -/
theorem eq_moduleText_of_generateUnformatted {hook : Option (Hook (Except Failure))}
    {document : Value} {s t : Formatter.Session} {module : Text}
    (h : (generateUnformatted hook document).run s = (.ok module, t)) :
    ∃ d schemas, module = TypeScript.moduleText d schemas := by
  unfold generateUnformatted at h
  obtain ⟨dialect, _, -, h⟩ := Formatter.run_bind_eq_ok h
  obtain ⟨schemas, _, -, h⟩ := Formatter.run_bind_eq_ok h
  obtain ⟨-, _, -, h⟩ := Formatter.run_bind_eq_ok h
  cases hook with
  | none => exact ⟨dialect, schemas, (Except.ok.inj (Prod.mk.inj h).1).symm⟩
  | some hook =>
    obtain ⟨mapped, _, -, h⟩ := Formatter.run_bind_eq_ok h
    exact ⟨dialect, mapped, (Except.ok.inj (Prod.mk.inj h).1).symm⟩

/-- **Without the formatter a module ends in a brace.** -/
theorem getLast?_of_unformatted {input : Text} {outcomes : List Formatter.Outcome}
    {arguments : List Text} {module : Text} {f : Formatter.Settings}
    (h : Produced directory tree input outcomes arguments o s module)
    (hformatter : s.formatter = .known f) (hdisabled : ¬f.enabled.truthy) :
    module.getLast? = some '\x7d' := by
  obtain ⟨source, session, -, hproduce⟩ := h
  unfold produce at hproduce
  obtain ⟨document, _, -, hgenerate⟩ := Formatter.run_bind_eq_ok hproduce
  unfold generate at hgenerate
  obtain ⟨code, _, hcode, hgenerate⟩ := Formatter.run_bind_eq_ok hgenerate
  obtain ⟨d, schemas, rfl⟩ := eq_moduleText_of_generateUnformatted hcode
  rw [hformatter] at hgenerate
  change (if f.enabled.truthy then _ else _ : Formatter.Work Text).run _ = _ at hgenerate
  rw [if_neg hdisabled] at hgenerate
  rw [← Except.ok.inj (Prod.mk.inj hgenerate).1, getLast?_moduleText]

/-! ### Printed and written -/

/-- **When the output file holds what is printed.** Of two runs that end as they should and whose
arguments differ in an output file only, the one without it prints its module without control
sequences and with a line feed, and the other writes the same module, with a line feed only if
there is none at its end. So the output file holds what is printed if and only if the module does
not end in a line feed, and has no control sequences. Without the formatter it does not end in
one. -/
theorem written_eq_printed_iff (directory : Text) (tree : FileTree) (input : Text)
    (outcomes : List Formatter.Outcome) {a b : List Text} (h : WithOutput path a b) :
    let printed := run directory tree input outcomes a
    let written := run directory tree input outcomes b
    printed.ending.code = 0 → written.ending.code = 0 →
      ∃ o s module, Produced directory tree input outcomes a o s module ∧
        printed.output = Text.stripControls module ++ ['\n'] ∧
        tree.Rewritten (outputName directory path) (Text.encodeUtf8 (endLine module))
          written.tree ∧
        (tree.Rewritten (outputName directory path) (Text.encodeUtf8 printed.output)
            written.tree ↔
          module.getLast? ≠ some '\n' ∧ Text.stripControls module = module) ∧
        ∀ f, s.formatter = .known f → ¬f.enabled.truthy → module.getLast? ≠ some '\n' := by
  intro printed written hprinted hwritten
  obtain ⟨ha, hb, houtput, hhelp, hchoices⟩ := h
  obtain ⟨s, module, session, hprepared, hproduce, hprint, -⟩ :=
    run_of_code_eq_zero ha hhelp hprinted
  obtain ⟨s', module', session', hprepared', hproduce', -, hwrite⟩ :=
    run_of_code_eq_zero hb (by rw [hchoices]; exact hhelp) hwritten
  -- both runs have the same settings, and so they produce the same module
  obtain rfl : s = s' := by
    have hsettings := hprepared'.settings
    rw [hchoices, settings_output] at hsettings
    exact Except.ok.inj (hprepared.settings.symm.trans hsettings)
  obtain rfl : module = module' :=
    Except.ok.inj (Prod.mk.inj (hproduce.symm.trans hproduce')).1
  have hout : printed.output = Text.stripControls module ++ ['\n'] := hprint houtput
  have hfile := hwrite path (by rw [hchoices])
  have hproduced : Produced directory tree input outcomes a _ s module :=
    ⟨_, session, hprepared, hproduce⟩
  refine ⟨_, s, module, hproduced, hout, hfile, ?_, fun f hf hdisabled => ?_⟩
  · rw [← endLine_eq_iff, hout]
    constructor
    · exact fun hsame => Text.encodeUtf8_injective (hfile.unique hsame)
    · intro heq
      rwa [← heq]
  · rw [getLast?_of_unformatted hproduced hf hdisabled]
    decide

/-- A tree with nothing but a document. -/
def documentTree : FileTree :=
  ⟨[(["doc.json".toList], .file (Text.encodeUtf8 plainDocument.toList))]⟩

/-- Arguments that ask for the formatter. -/
def formattingArguments : List Text := ["--format".toList, "doc.json".toList]

/-- The same with an output file. -/
def writingArguments : List Text := "-o".toList :: "out.ts".toList :: formattingArguments

/-- What the formatter prints. -/
def formattedModule : Text := "export interface definitions \x7b\x7d\n".toList

/-- A formatter that can be used, and that prints a module. -/
def printingOutcomes (module : Text) : List Formatter.Outcome :=
  [.exit 0 [] [], .exit 0 module []]

/-- What two runs do whose formatter prints no line feed. -/
theorem written_eq_printed_formatted :
    let outcomes := printingOutcomes formattedModule.dropLast
    let printed := run "/w".toList documentTree [] outcomes formattingArguments
    let written := run "/w".toList documentTree [] outcomes writingArguments
    WithOutput "out.ts".toList formattingArguments writingArguments ∧
      printed.ending.code = 0 ∧ written.ending.code = 0 ∧
      ∃ o s module,
        Produced "/w".toList documentTree [] outcomes formattingArguments o s module ∧
        printed.output = Text.stripControls module ++ ['\n'] ∧
        documentTree.Rewritten (outputName "/w".toList "out.ts".toList)
          (Text.encodeUtf8 (endLine module)) written.tree := by
  intro outcomes printed written
  have hread : read formattingArguments = .ok ([.format true], ["doc.json".toList]) := rfl
  have hwith : WithOutput "out.ts".toList formattingArguments writingArguments :=
    withOutput_cons hread rfl rfl _
  have hprinted : printed.ending.code = 0 := by decide +kernel
  have hwritten : written.ending.code = 0 := by decide +kernel
  obtain ⟨o, s, module, hproduced, hout, hfile, -⟩ :=
    written_eq_printed_iff "/w".toList documentTree [] outcomes hwith hprinted hwritten
  exact ⟨hwith, hprinted, hwritten, o, s, module, hproduced, hout, hfile⟩

/-- A line feed at the end of what the formatter prints is doubled on the standard output. -/
theorem written_ne_printed :
    let printed := run "/w".toList documentTree [] (printingOutcomes formattedModule)
      formattingArguments
    let written := run "/w".toList documentTree [] (printingOutcomes formattedModule)
      writingArguments
    printed.ending.code = 0 ∧ written.ending.code = 0 ∧
      documentTree.find? ["out.ts".toList] = none ∧
      printed.output = formattedModule ++ ['\n'] ∧
      written.tree.bytes? ["out.ts".toList] = some (Text.encodeUtf8 formattedModule) ∧
      written.tree.bytes? ["out.ts".toList] ≠ some (Text.encodeUtf8 printed.output) := by
  decide +kernel

end CommandLine

end ApiTypes
