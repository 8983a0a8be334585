import ApiTypes.Proofs.CommandLine.Course
import ApiTypes.Proofs.CommandLine.Overwriting
import ApiTypes.Proofs.Output.Saving

/-!
# What a run changes

A run of the command changes no file but its output file, and this one only when it ends as it
should: `ApiTypes.CommandLine.rewritten_run`. There is one way out of it. An output file that is
written in place is emptied before its content is encoded, so that it is left empty when the
content has no encoding (`ApiTypes.CommandLine.rewritten_run_unencodable`).

What is written all or nothing has passed the check of generated code, if the settings ask for it
(`ApiTypes.CommandLine.check_run`). What is written in place has not
(`ApiTypes.CommandLine.check_run_inPlace`).

Modules with a character that takes the place of a surrogate (`ApiTypes.Text.ofCodePoint`) are left
out of all this: they count as modules without an encoding.
-/

namespace ApiTypes

namespace CommandLine

open Output (Saved)

variable {directory source path : Text} {tree : FileTree} {arguments : List Text} {o : Options}
  {s : Settings}

/-- The output file that a path in the options names. -/
def outputName (directory path : Text) : PathName := (PathName.ofText path).inFull directory

/-- What is delivered is saved with the settings of the output, if there are such settings. -/
theorem deliver_eq {c : Output.Settings} (hc : s.output = .known c) (directory : Text)
    (tree : FileTree) (path module : Text) : deliver directory tree s path module =
      Output.save c tree (outputName directory path) (endLine module) := by
  simp only [deliver, hc, Stored.content_known, outputName]

/-- **What delivering may do**: it saves the module, or it fails before. -/
theorem deliver_cases (directory : Text) (tree : FileTree) (s : Settings) (path module : Text) :
    (∃ c, s.output = .known c ∧ Saved c tree (outputName directory path) (endLine module)
      (deliver directory tree s path module)) ∨
    ∃ e, deliver directory tree s path module = (.error e, tree) := by
  cases hc : s.output.content "validate_before_write" with
  | ok c =>
    have hknown := Stored.content_eq_ok_iff.1 hc
    refine .inl ⟨c, hknown, ?_⟩
    rw [deliver_eq hknown]
    exact Output.saved_save c tree _ _
  | error e => exact .inr ⟨e, by simp only [deliver, hc]⟩

/-- **A run has produced its module**, with these options and settings. -/
def Produced (directory : Text) (tree : FileTree) (input : Text)
    (outcomes : List Formatter.Outcome) (arguments : List Text) (o : Options) (s : Settings)
    (module : Text) : Prop :=
  ∃ source session, Prepared directory tree arguments o source s ∧
    (produce directory tree input source s).run { outcomes } = (.ok module, session)

/-- **A run has emptied its output file**, which it was to write in place, for a module that has
no encoding. -/
def Emptied (directory : Text) (tree : FileTree) (input : Text)
    (outcomes : List Formatter.Outcome) (arguments : List Text) (after : FileTree) : Prop :=
  ∃ o s module path c run, Produced directory tree input outcomes arguments o s module ∧
    o.output = some path ∧ s.output = .known c ∧ ¬c.atomicWrite.truthy ∧
    Text.surrogates? (endLine module) = some run ∧
    tree.Rewritten (outputName directory path) [] after

theorem noHelp_of_not_mem (hhelp : helpName ∉ arguments)
    (h : readArguments directory tree arguments = .ok (o, source)) : o.help = false := by
  obtain ⟨choices, names, hchoices, rfl, -⟩ := readArguments_eq_ok h
  exact help_ofChoices (not_mem_read longOnly_help hhelp hchoices)

/-- **A run changes its output file only, and only when it ends as it should.** If its exit code
is not zero, every file is as it was, but for an output file that has been emptied in place. If
its exit code is zero, there is a module: without an output file every file is as it was, and
with one, that file holds the module, with a line feed at its end, and every other file is as it
was. -/
theorem rewritten_run (directory : Text) (tree : FileTree) (input : Text)
    (outcomes : List Formatter.Outcome) (arguments : List Text) (hhelp : helpName ∉ arguments) :
    let r := run directory tree input outcomes arguments
    (r.ending.code ≠ 0 → r.tree.bytes? = tree.bytes? ∨
      Emptied directory tree input outcomes arguments r.tree) ∧
    (r.ending.code = 0 → ∃ o s module,
      Produced directory tree input outcomes arguments o s module ∧
      (o.output = none → r.tree.bytes? = tree.bytes?) ∧
      ∀ path, o.output = some path → tree.Rewritten (outputName directory path)
        (Text.encodeUtf8 (endLine module)) r.tree) := by
  have hcourse := course_run directory tree input outcomes arguments
  dsimp only
  generalize run directory tree input outcomes arguments = r at hcourse ⊢
  -- a run that ends before it has a module leaves the tree as it is
  have hends : ∀ {ending : Ending}, ending ≠ .done → ending.code ≠ 0 := fun h hcode =>
    h (Ending.code_eq_zero_iff.1 hcode)
  cases hcourse with
  | misused h =>
    exact ⟨fun _ => .inl rfl, fun hcode => absurd hcode (hends (failsOnly_readArguments _ _ _ _ h))⟩
  | helped h hwanted => exact absurd (noHelp_of_not_mem hhelp h) (by simp [hwanted])
  | unsettled _ _ h =>
    exact ⟨fun _ => .inl rfl, fun hcode => absurd hcode (hends (failsOnly_settings _ _ _ _ h))⟩
  | unproduced =>
    exact ⟨fun _ => .inl rfl, fun hcode => absurd hcode (hends (Ending.ofFailure_ne_done _))⟩
  | @printed o source module s session hprepared hproduce houtput =>
    refine ⟨fun hcode => absurd rfl hcode, fun _ =>
      ⟨o, s, module, ⟨source, session, hprepared, hproduce⟩, fun _ => rfl, fun path hpath => ?_⟩⟩
    exact absurd (houtput.symm.trans hpath) (by simp)
  | unprinted =>
    exact ⟨fun _ => .inl rfl, fun hcode => absurd hcode (hends (by simp))⟩
  | @delivered o source module path s after session hprepared hproduce houtput hdeliver =>
    refine ⟨fun hcode => absurd rfl hcode, fun _ => ⟨o, s, module,
      ⟨source, session, hprepared, hproduce⟩, fun hnone => ?_, fun path' hpath => ?_⟩⟩
    · exact absurd (houtput.symm.trans hnone) (by simp)
    · obtain rfl : path = path' := Option.some.inj (houtput.symm.trans hpath)
      rcases deliver_cases directory tree s path module with ⟨c, -, hsaved⟩ | ⟨e, herror⟩
      · rw [hdeliver] at hsaved
        cases hsaved with
        | written hrewritten _ => exact hrewritten
      · exact absurd (hdeliver.symm.trans herror) (by simp)
  | @undelivered o source module path s after e session hprepared hproduce houtput hdeliver =>
    refine ⟨fun _ => ?_, fun hcode => absurd hcode (hends (Ending.ofFailure_ne_done _))⟩
    rcases deliver_cases directory tree s path module with ⟨c, hc, hsaved⟩ | ⟨e', herror⟩
    · rw [hdeliver] at hsaved
      cases hsaved with
      | refused hsame => exact .inl hsame
      | emptied hatomic hrun hrewritten =>
        exact .inr ⟨o, s, module, path, c, _, ⟨source, session, hprepared, hproduce⟩, houtput, hc,
          hatomic, hrun, hrewritten⟩
    · obtain ⟨-, rfl⟩ := Prod.mk.inj (hdeliver.symm.trans herror)
      exact .inl rfl

/-- A tree with a document, an output file, and a settings file with which the output file is
written in place. -/
def treeInPlace (document : String) : FileTree :=
  ⟨[(["doc.json".toList], .file (Text.encodeUtf8 document.toList)),
    (["cfg.json".toList], .file (Text.encodeUtf8
      "\x7b\"output\": \x7b\"atomic_write\": false\x7d\x7d".toList)),
    (["out.ts".toList], .file (Text.encodeUtf8 "old".toList))]⟩

/-- A document with a schema. -/
def plainDocument : String :=
  "\x7b\"swagger\": \"2.0\", \"definitions\": \x7b\"A\": \x7b\"type\": \"string\"\x7d\x7d\x7d"

/-- A document with a schema for a value that has no encoding. -/
def unencodableDocument : String :=
  "\x7b\"swagger\": \"2.0\", \"definitions\": \x7b\"A\": \x7b\"enum\": [\"\\ud800\"]\x7d\x7d\x7d"

/-- Arguments that choose the output file and the settings file, and to overwrite. -/
def overwritingArguments : List Text := forceName :: chosenArguments

/-- The output file of a run that ends as it should holds the module. -/
theorem rewritten_run_plain : helpName ∉ overwritingArguments ∧
    let tree := treeInPlace plainDocument
    let r := run "/w".toList tree [] [] overwritingArguments
    r.ending.code = 0 ∧ ∃ o s module,
      Produced "/w".toList tree [] [] overwritingArguments o s module ∧
      ∀ path, o.output = some path → tree.Rewritten (outputName "/w".toList path)
        (Text.encodeUtf8 (endLine module)) r.tree := by
  have hhelp : helpName ∉ overwritingArguments := by decide +kernel
  have hcode : (run "/w".toList (treeInPlace plainDocument) [] [] overwritingArguments).ending.code
      = 0 := by decide +kernel
  obtain ⟨o, s, module, hproduced, -, hfile⟩ :=
    (rewritten_run "/w".toList (treeInPlace plainDocument) [] [] overwritingArguments hhelp).2 hcode
  exact ⟨hhelp, hcode, o, s, module, hproduced, hfile⟩

/-- An output file that is written in place is lost when the module has no encoding. -/
theorem rewritten_run_unencodable : helpName ∉ overwritingArguments ∧
    let tree := treeInPlace unencodableDocument
    let r := run "/w".toList tree [] [] overwritingArguments
    r.ending.code ≠ 0 ∧ tree.bytes? ["out.ts".toList] = some (Text.encodeUtf8 "old".toList) ∧
      r.tree.bytes? ["out.ts".toList] = some [] := by
  decide +kernel

/-! ### What is checked -/

/-- **What is written all or nothing has passed its check.** When the settings ask for the check
of an output file that is written all or nothing, a run that ends as it should has written its
module there, with a line feed at its end, and the check accepts this; or else a description of
the command is wanted, and nothing is written. -/
theorem check_run (directory : Text) (tree : FileTree) (input : Text)
    (outcomes : List Formatter.Outcome) (arguments : List Text) {c : Output.Settings}
    (hread : readArguments directory tree arguments = .ok (o, source))
    (hsettings : settings directory tree o = .ok s) (houtput : o.output = some path)
    (hc : s.output = .known c) (hvalidate : c.validateBeforeWrite.truthy)
    (hatomic : c.atomicWrite.truthy) :
    let r := run directory tree input outcomes arguments
    r.ending.code = 0 →
      o.help = true ∧ r.tree = tree ∨
      ∃ module, Produced directory tree input outcomes arguments o s module ∧
        tree.Rewritten (outputName directory path) (Text.encodeUtf8 (endLine module)) r.tree ∧
        Output.check (endLine module) = .ok () := by
  have hcourse := course_run directory tree input outcomes arguments
  dsimp only
  generalize run directory tree input outcomes arguments = r at hcourse ⊢
  intro hcode
  have hdone : r.ending = .done := Ending.code_eq_zero_iff.1 hcode
  cases hcourse with
  | misused h => exact absurd hdone (failsOnly_readArguments _ _ _ _ h)
  | helped h hwanted =>
    obtain ⟨rfl, -⟩ := Prod.mk.inj (Except.ok.inj (h.symm.trans hread))
    exact .inl ⟨hwanted, rfl⟩
  | unsettled _ _ h => exact absurd hdone (failsOnly_settings _ _ _ _ h)
  | unproduced
  | undelivered => exact absurd hdone (Ending.ofFailure_ne_done _)
  | unprinted => exact absurd hdone (by simp)
  | printed hprepared _ hnone =>
    obtain ⟨rfl, -⟩ := Prod.mk.inj (Except.ok.inj (hprepared.arguments.symm.trans hread))
    exact absurd (hnone.symm.trans houtput) (by simp)
  | @delivered o' source' module path' s' after session hprepared hproduce houtput' hdeliver =>
    obtain ⟨rfl, rfl⟩ := Prod.mk.inj (Except.ok.inj (hprepared.arguments.symm.trans hread))
    obtain rfl : s' = s := Except.ok.inj (hprepared.settings.symm.trans hsettings)
    obtain rfl : path' = path := Option.some.inj (houtput'.symm.trans houtput)
    have hsaved := Output.saved_save c tree (outputName directory path') (endLine module)
    rw [← deliver_eq hc, hdeliver] at hsaved
    cases hsaved with
    | written hrewritten hcheck =>
      exact .inr ⟨module, ⟨source', session, hprepared, hproduce⟩, hrewritten,
        hcheck hatomic hvalidate⟩

/-- A document with a schema that refers to a name with an opening brace in it. -/
def unbalancedDocument : String :=
  "\x7b\"swagger\": \"2.0\", \"definitions\": \x7b\"A\": \x7b\"$ref\": \"#/x\x7b\"\x7d\x7d\x7d"

/-- Arguments that choose the output file, and to overwrite. -/
def forcedArguments : List Text :=
  [forceName, "-o".toList, "out.ts".toList, "doc.json".toList]

/-- Without a settings file, what is written has passed its check. -/
theorem check_run_plain :
    let tree := treeInPlace plainDocument
    let o : Options := { output := some "out.ts".toList, force := true }
    let s : Settings := { output := .known { mode := .known .force } }
    readArguments "/w".toList tree forcedArguments = .ok (o, "doc.json".toList) ∧
      settings "/w".toList tree o = .ok s ∧
      (run "/w".toList tree [] [] forcedArguments).ending.code = 0 ∧
      ∃ module, Produced "/w".toList tree [] [] forcedArguments o s module ∧
        Output.check (endLine module) = .ok () := by
  intro tree o s
  have hread : readArguments "/w".toList tree forcedArguments = .ok (o, "doc.json".toList) := by
    decide +kernel
  have hsettings : settings "/w".toList tree o = .ok s := rfl
  have hcode : (run "/w".toList tree [] [] forcedArguments).ending.code = 0 := by decide +kernel
  refine ⟨hread, hsettings, hcode, ?_⟩
  rcases check_run "/w".toList tree [] [] forcedArguments hread hsettings rfl rfl rfl rfl hcode with
    ⟨hhelp, -⟩ | ⟨module, hproduced, -, hcheck⟩
  · exact absurd hhelp (by decide)
  · exact ⟨module, hproduced, hcheck⟩

/-- The module of that document, with a line feed at its end. -/
def unbalancedModule : Text :=
  TypeScript.banner ++ "export interface definitions \x7b\n\"A\": x\x7b;\n\n\x7d\n".toList

/-- An output file that is written in place can hold what the check refuses. -/
theorem check_run_inPlace :
    let tree := treeInPlace unbalancedDocument
    let r := run "/w".toList tree [] [] overwritingArguments
    r.ending.code = 0 ∧
      r.tree.bytes? ["out.ts".toList] = some (Text.encodeUtf8 unbalancedModule) ∧
      Output.check unbalancedModule = .error (.unbalanced 2 1) := by
  decide +kernel

end CommandLine

end ApiTypes
