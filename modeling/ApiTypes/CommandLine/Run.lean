import ApiTypes.CommandLine.Options
import ApiTypes.Document
import ApiTypes.Generation
import ApiTypes.Output.Save
import ApiTypes.Settings.Basic
import ApiTypes.Text.Terminal

/-!
# Running the command

The command reads its arguments and its settings, loads the document, generates the
module, and prints it or writes it to a file. `ApiTypes.CommandLine.run` does all that on
a file tree, with the standard input as a text and the outcomes of the formatter given,
and it gives back a report: how the run ended, what was printed, what was logged, and the
tree as it is left behind.

A run can end in four ways (`ApiTypes.CommandLine.Ending`). Failures of the library's own
are reported; others, like a hook that fails, break the run off.
-/

namespace ApiTypes

/-- Whether the command reports a failure, and does not break off. -/
def Failure.isReported : Failure → Bool
  | .undetectedVersion | .missingSchemas _ | .unreadable .. | .noDocument _ | .notMapping _
  | .invalidJson | .unparsable | .noInterface | .unbalanced .. | .outputExists _
  | .file .exists _ => true
  | _ => false

namespace CommandLine

/-- **How a run ends.** -/
inductive Ending where
  /-- As it should. -/
  | done
  /-- With arguments or settings that cannot be used. -/
  | misused (error : UsageError)
  /-- With a failure that is reported. -/
  | failed (cause : Failure)
  /-- With a failure that breaks it off. -/
  | broken (cause : Failure)
deriving DecidableEq, Repr

namespace Ending

/-- The ending with a failure. -/
def ofFailure (cause : Failure) : Ending :=
  if cause.isReported then failed cause else broken cause

/-- The exit code of a run. -/
def code : Ending → Nat
  | done => 0
  | misused _ => 2
  | failed _ | broken _ => 1

/-- What a run says about its end. -/
def message? : Ending → Option Text
  | misused e => some e.message
  | failed e => some e.message.toList
  | done | broken _ => none

end Ending

/-- **The report of a run.** -/
structure Report where
  /-- How the run ended. -/
  ending : Ending
  /-- The tree afterwards. -/
  tree : FileTree
  /-- What was printed to the standard output. -/
  output : Text := []
  /-- What happened with the formatter, and the messages. -/
  session : Formatter.Session := {}
  /-- Whether all messages are printed. -/
  verbose : Bool := false

namespace Report

/-- Whether a message is printed. -/
def prints (r : Report) (m : Log.Message) : Bool := r.verbose || m.level = .warning

/-- **What was printed to the standard error**: the messages, and what is said about the
end. A run that breaks off says nothing about it. -/
def errors (r : Report) : Text :=
  let lines := ((r.session.messages.reverse.filter r.prints).map Log.Message.line).flatten
  match r.ending.message? with
  | none => lines
  | some message => lines ++ "Error: ".toList ++ Text.stripControls message ++ ['\n']

end Report

/-! ### Settings -/

/-- The path in an option, shown in full. -/
def fullPath (directory path : Text) : Except Ending PathName :=
  let name := PathName.ofText path
  if name.hasNull then .error (.broken (.file .embeddedNull path))
  else .ok (name.inFull directory)

/-- Checks that the output file is no directory. -/
def checkOutput (directory : Text) (tree : FileTree) (o : Options) : Except Ending Unit := do
  match o.output with
  | none => return ()
  | some path =>
    if tree.isDirectory (← fullPath directory path) then
      throw (.misused (.outputIsDirectory path))

/-- Checks that the settings file is there. -/
def checkConfig (directory : Text) (tree : FileTree) (o : Options) : Except Ending Unit := do
  match o.config with
  | none => return ()
  | some path =>
    match tree.exists (← fullPath directory path) with
    | .ok true => return ()
    | _ => throw (.misused (.configMissing path))

/-- **Reading and checking the arguments**: the options, and the name of the document. -/
def readArguments (directory : Text) (tree : FileTree) (arguments : List Text) :
    Except Ending (Options × Text) := do
  let (choices, names) ← match read arguments with
    | .ok r => pure r
    | .error e => throw (.misused e)
  let o := Options.ofChoices choices
  if o.help then return (o, [])
  if outputFirst choices then
    checkOutput directory tree o
    checkConfig directory tree o
  else
    checkConfig directory tree o
    checkOutput directory tree o
  match names with
  | [] => return (o, Document.standardInput)
  | [name] => return (o, name)
  | _ :: more => throw (.misused (.extraNames more))

/-- The settings in a file. -/
def readSettings (directory : Text) (tree : FileTree) (path : Text) : Except Ending Settings :=
  let unusable {α : Type} (cause : Failure) : Except Ending α :=
    .error (.misused (.badSettings cause))
  match tree.read ((PathName.ofText path).inFull directory) with
  | .error e => .error (.broken (.file e path))
  | .ok bytes =>
    match Text.decodeUtf8 bytes with
    | .error e => unusable (.undecodable e.message)
    | .ok t =>
      match Json.parse? (Text.unifyLineEnds t) with
      | none => unusable .malformedSettings
      | some v =>
        match Settings.ofValue v with
        | .error e => unusable e
        | .ok s => .ok s

/-- The settings with the hook that the options choose. -/
def chooseHook (o : Options) (s : Settings) : Except Ending Settings :=
  match o.hook with
  | none => .ok s
  | some path =>
    match Hook.find path with
    | .error e => .error (.misused (.badSettings e))
    | .ok named => .ok { s with hook := .known named }

/-- The settings with what else the options choose. -/
def chooseRest (o : Options) (s : Settings) : Except Failure Settings := do
  let s ← match o.formatterConfig with
    | none => pure s
    | some path => do
      let f ← s.formatter.content "config_path"
      pure { s with formatter := .known { f with
        configPath := .str (String.ofList path), enabled := .bool true } }
  let s ← match o.format with
    | none => pure s
    | some wanted => do
      let f ← s.formatter.content "enabled"
      pure { s with formatter := .known { f with enabled := .bool wanted } }
  if o.force then
    let p ← s.output.content "mode"
    return { s with output := .known { p with mode := .known .force } }
  else return s

/-- **The settings of a run**: those of the settings file, with the choices of the options
in front. -/
def settings (directory : Text) (tree : FileTree) (o : Options) : Except Ending Settings := do
  let s ← match o.config with
    | none => .ok {}
    | some path => readSettings directory tree path
  let s ← chooseHook o s
  match chooseRest o s with
  | .error e => .error (.broken e)
  | .ok s => .ok s

/-! ### Running -/

/-- The module of the document at `source`. -/
def produce (directory : Text) (tree : FileTree) (input source : Text) (s : Settings) :
    Formatter.Work Text := do
  let document ← Document.load tree input source
  generate tree directory s.hook? s.formatter (.map document)

/-- The text with a line feed at its end. -/
def endLine (t : Text) : Text := if t.getLast? = some '\n' then t else t ++ ['\n']

/-- Writes the module to the output file. -/
def deliver (directory : Text) (tree : FileTree) (s : Settings) (path module : Text) :
    Except Failure Unit × FileTree :=
  match s.output.content "validate_before_write" with
  | .error e => (.error e, tree)
  | .ok o => Output.save o tree ((PathName.ofText path).inFull directory) (endLine module)

/-- **Running the command** in the working directory `directory`. -/
def run (directory : Text) (tree : FileTree) (input : Text) (outcomes : List Formatter.Outcome)
    (arguments : List Text) : Report :=
  match readArguments directory tree arguments with
  | .error ending => { ending, tree }
  | .ok (o, source) =>
    if o.help then { ending := .done, tree }
    else
      match settings directory tree o with
      | .error ending => { ending, tree }
      | .ok s =>
        match (produce directory tree input source s).run { outcomes } with
        | (.error e, session) =>
          { ending := .ofFailure e, tree, session, verbose := o.verbose }
        | (.ok module, session) =>
          match o.output with
          | none =>
            let output := Text.stripControls module ++ ['\n']
            match Text.surrogates? output with
            | none => { ending := .done, tree, session, verbose := o.verbose, output }
            | some run =>
              { ending := .broken (.unencodable run), tree, session, verbose := o.verbose }
          | some path =>
            match deliver directory tree s path module with
            | (.ok (), tree) => { ending := .done, tree, session, verbose := o.verbose }
            | (.error e, tree) =>
              { ending := .ofFailure e, tree, session, verbose := o.verbose }

end CommandLine

end ApiTypes
