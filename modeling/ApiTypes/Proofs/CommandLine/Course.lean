import ApiTypes.Proofs.CommandLine.Arguments
import ApiTypes.Proofs.Failing

/-!
# The course of a run

A run of the command goes through its stages one after the other: it reads the arguments, reads
the settings, produces the module, and prints it or writes it to a file. It ends at the first
stage that does not succeed, and `ApiTypes.CommandLine.Course` says how: which report there is,
and what is known of the stages in front. Each run has a course
(`ApiTypes.CommandLine.course_run`), so that what is to be shown of all runs is shown for one
course after the other.

The first two stages are alike in what they end with: never as a run should
(`ApiTypes.CommandLine.failsOnly_readArguments`, `ApiTypes.CommandLine.failsOnly_settings`).
-/

namespace ApiTypes

namespace CommandLine

variable {directory input source : Text} {tree : FileTree} {outcomes : List Formatter.Outcome}
  {arguments : List Text} {o : Options} {s : Settings}

/-- **A run has read its arguments and its settings**, and no description is wanted. -/
structure Prepared (directory : Text) (tree : FileTree) (arguments : List Text) (o : Options)
    (source : Text) (s : Settings) : Prop where
  /-- The options and the name of the document are those in the arguments. -/
  arguments : readArguments directory tree arguments = .ok (o, source)
  /-- A description of the command is not wanted. -/
  noHelp : o.help = false
  /-- The settings are those of the options. -/
  settings : settings directory tree o = .ok s

/-- **How a run goes**, with the report it ends with. -/
inductive Course (directory : Text) (tree : FileTree) (input : Text)
    (outcomes : List Formatter.Outcome) (arguments : List Text) : Report → Prop
  /-- The arguments cannot be used. -/
  | misused {ending : Ending} : readArguments directory tree arguments = .error ending →
      Course directory tree input outcomes arguments { ending, tree }
  /-- A description of the command is wanted. -/
  | helped {o : Options} {source : Text} :
      readArguments directory tree arguments = .ok (o, source) → o.help = true →
      Course directory tree input outcomes arguments { ending := .done, tree }
  /-- The settings cannot be used. -/
  | unsettled {o : Options} {source : Text} {ending : Ending} :
      readArguments directory tree arguments = .ok (o, source) → o.help = false →
      settings directory tree o = .error ending →
      Course directory tree input outcomes arguments { ending, tree }
  /-- There is no module. -/
  | unproduced {o : Options} {source : Text} {s : Settings} {e : Failure}
      {session : Formatter.Session} : Prepared directory tree arguments o source s →
      (produce directory tree input source s).run { outcomes } = (.error e, session) →
      Course directory tree input outcomes arguments
        { ending := .ofFailure e, tree, session, verbose := o.verbose }
  /-- The module is printed. -/
  | printed {o : Options} {source module : Text} {s : Settings} {session : Formatter.Session} :
      Prepared directory tree arguments o source s →
      (produce directory tree input source s).run { outcomes } = (.ok module, session) →
      o.output = none →
      Course directory tree input outcomes arguments
        { ending := .done, tree, session, verbose := o.verbose,
          output := Text.stripControls module ++ ['\n'] }
  /-- The module cannot be printed. -/
  | unprinted {o : Options} {source module : Text} {s : Settings} {session : Formatter.Session}
      {run : Text.SurrogateRun} : Prepared directory tree arguments o source s →
      (produce directory tree input source s).run { outcomes } = (.ok module, session) →
      o.output = none → Text.surrogates? (Text.stripControls module ++ ['\n']) = some run →
      Course directory tree input outcomes arguments
        { ending := .broken (.unencodable run), tree, session, verbose := o.verbose }
  /-- The module is written to the output file. -/
  | delivered {o : Options} {source module path : Text} {s : Settings} {after : FileTree}
      {session : Formatter.Session} : Prepared directory tree arguments o source s →
      (produce directory tree input source s).run { outcomes } = (.ok module, session) →
      o.output = some path → deliver directory tree s path module = (.ok (), after) →
      Course directory tree input outcomes arguments
        { ending := .done, tree := after, session, verbose := o.verbose }
  /-- The module cannot be written to the output file. -/
  | undelivered {o : Options} {source module path : Text} {s : Settings} {after : FileTree}
      {e : Failure} {session : Formatter.Session} : Prepared directory tree arguments o source s →
      (produce directory tree input source s).run { outcomes } = (.ok module, session) →
      o.output = some path → deliver directory tree s path module = (.error e, after) →
      Course directory tree input outcomes arguments
        { ending := .ofFailure e, tree := after, session, verbose := o.verbose }

/-- **Every run has a course.** -/
theorem course_run (directory : Text) (tree : FileTree) (input : Text)
    (outcomes : List Formatter.Outcome) (arguments : List Text) :
    Course directory tree input outcomes arguments
      (run directory tree input outcomes arguments) := by
  unfold run
  split
  · next hread => exact .misused hread
  · next o source hread =>
    split
    · next hhelp => exact .helped hread hhelp
    · next hhelp =>
      have hnot : o.help = false := by simpa using hhelp
      split
      · next hsettings => exact .unsettled hread hnot hsettings
      · next s hsettings =>
        have hprepared : Prepared directory tree arguments o source s := ⟨hread, hnot, hsettings⟩
        split
        · next hproduce => exact .unproduced hprepared hproduce
        · next module session hproduce =>
          split
          · next houtput =>
            dsimp only
            split
            · exact .printed hprepared hproduce houtput
            · next hrun => exact .unprinted hprepared hproduce houtput hrun
          · next path houtput =>
            split
            · next hdeliver => exact .delivered hprepared hproduce houtput hdeliver
            · next hdeliver => exact .undelivered hprepared hproduce houtput hdeliver

/-! ### Exit codes -/

/-- Only a run that ends as it should has the exit code zero. -/
theorem Ending.code_eq_zero_iff {ending : Ending} : ending.code = 0 ↔ ending = .done := by
  cases ending <;> simp [code]

theorem Ending.ofFailure_ne_done (e : Failure) : Ending.ofFailure e ≠ .done := by
  unfold ofFailure
  split <;> simp

theorem failsOnly_fullPath (directory path : Text) :
    FailsOnly (· ≠ .done) (fullPath directory path) := by
  unfold fullPath
  dsimp only
  split <;> simp

theorem failsOnly_checkOutput (directory : Text) (tree : FileTree) (o : Options) :
    FailsOnly (· ≠ .done) (checkOutput directory tree o) := by
  unfold checkOutput
  split
  · simp
  · next path _ =>
    refine (failsOnly_fullPath directory path).bind fun name _ => ?_
    split <;> simp

theorem failsOnly_checkConfig (directory : Text) (tree : FileTree) (o : Options) :
    FailsOnly (· ≠ .done) (checkConfig directory tree o) := by
  unfold checkConfig
  split
  · simp
  · next path _ =>
    refine (failsOnly_fullPath directory path).bind fun name _ => ?_
    split <;> simp

/-- Arguments that cannot be used do not end a run as it should. -/
theorem failsOnly_readArguments (directory : Text) (tree : FileTree) (arguments : List Text) :
    FailsOnly (· ≠ .done) (readArguments directory tree arguments) := by
  have houtput := failsOnly_checkOutput directory tree
  have hconfig := failsOnly_checkConfig directory tree
  unfold readArguments
  cases read arguments with
  | error e => simp
  | ok r =>
    refine (failsOnly_pure _ r).bind fun r _ => ?_
    dsimp only
    split
    · simp
    · split
      · refine (houtput _).bind fun _ _ => (hconfig _).bind fun _ _ => ?_
        split <;> simp
      · refine (hconfig _).bind fun _ _ => (houtput _).bind fun _ _ => ?_
        split <;> simp

theorem failsOnly_readSettings (directory : Text) (tree : FileTree) (path : Text) :
    FailsOnly (· ≠ .done) (readSettings directory tree path) := by
  unfold readSettings
  dsimp only
  repeat' split
  all_goals simp

/-- Settings that cannot be used do not end a run as it should. -/
theorem failsOnly_settings (directory : Text) (tree : FileTree) (o : Options) :
    FailsOnly (· ≠ .done) (settings directory tree o) := by
  have hhook : ∀ s, FailsOnly (· ≠ .done) (chooseHook o s) := by
    intro s
    unfold chooseHook
    repeat' split
    all_goals simp
  unfold settings
  split
  · refine (failsOnly_ok _ _).bind fun s _ => (hhook s).bind fun s' _ => ?_
    split <;> simp
  · next path _ =>
    refine (failsOnly_readSettings directory tree path).bind fun s _ => ?_
    refine (hhook s).bind fun s' _ => ?_
    split <;> simp

end CommandLine

end ApiTypes
