import ApiTypes.Failure
import ApiTypes.Text.Similar

/-!
# Options of the command line

The arguments of the command are options and the name of a document, in any order. An
option has a long name, behind two dashes, and perhaps a short one, a letter behind one
dash. Some take a value: behind an equals sign or as the next argument for a long name,
behind the letter or as the next argument for a short one. Several letters can follow one
dash. Behind a lone double dash there are no more options, and a lone dash is none.

`ApiTypes.CommandLine.read` takes the arguments apart into choices, in their order, and
names; `ApiTypes.CommandLine.Options.ofChoices` puts them together, where the last choice
of a kind counts.
-/

namespace ApiTypes.CommandLine

/-- **What an option chooses.** -/
inductive Choice where
  /-- The output file. -/
  | output (path : Text)
  /-- The settings file. -/
  | config (path : Text)
  /-- The settings file of the formatter, which is used then. -/
  | formatterConfig (path : Text)
  /-- Whether the formatter is used. -/
  | format (wanted : Bool)
  /-- The path of the property hook. -/
  | hook (path : Text)
  /-- To overwrite the output file. -/
  | force
  /-- To print all messages. -/
  | verbose
  /-- To print a description of the command. -/
  | help
deriving DecidableEq, Repr

/-- What a name of an option stands for. -/
inductive Named where
  /-- A choice that takes a value. -/
  | valued (choose : Text → Choice)
  /-- A choice. -/
  | flag (choice : Choice)

/-- The long names of the options. -/
def longNames : List (Text × Named) :=
  [("--output".toList, .valued .output),
   ("--config".toList, .valued .config),
   ("--prettier-config".toList, .valued .formatterConfig),
   ("--format".toList, .flag (.format true)),
   ("--no-format".toList, .flag (.format false)),
   ("--property-mapper".toList, .valued .hook),
   ("--force".toList, .flag .force),
   ("--verbose".toList, .flag .verbose),
   ("--help".toList, .flag .help)]

/-- The short names of the options. -/
def shortNames : List (Char × Named) :=
  [('o', .valued .output), ('c', .valued .config), ('v', .flag .verbose)]

/-- **What is wrong with the arguments.** -/
inductive UsageError where
  /-- There is no option of that name, but there are similar ones. -/
  | noSuchOption (name : Text) (similar : List Text)
  /-- The value of an option is missing. -/
  | missingValue (name : Text)
  /-- An option has a value that takes none. -/
  | unexpectedValue (name : Text)
  /-- There are names behind the one of the document. -/
  | extraNames (names : List Text)
  /-- The output file is a directory. -/
  | outputIsDirectory (path : Text)
  /-- The settings file is not there. -/
  | configMissing (path : Text)
  /-- The settings cannot be used. -/
  | badSettings (cause : Failure)
deriving DecidableEq, Repr

/-- The wording of what is wrong with the arguments. -/
def UsageError.message : UsageError → Text
  | noSuchOption name similar =>
    "No such option ".toList ++ Text.display name ++ '.' :: match similar with
      | [] => []
      | [s] => " Did you mean ".toList ++ Text.display s ++ ['?']
      | _ =>
        " (Did you mean one of: ".toList ++ Text.join [',', ' '] (similar.map Text.display) ++
          ['?', ')']
  | missingValue name => "Option ".toList ++ Text.display name ++ " requires an argument.".toList
  | unexpectedValue name =>
    "Option ".toList ++ Text.display name ++ " does not take a value.".toList
  | extraNames names =>
    (if names.length = 1 then "Got unexpected extra argument (".toList
      else "Got unexpected extra arguments (".toList) ++ Text.join [' '] names ++ [')']
  | outputIsDirectory path =>
    "Invalid value for '--output' / '-o': File ".toList ++ Text.display path ++
      " is a directory.".toList
  | configMissing path =>
    "Invalid value for '--config' / '-c': Path ".toList ++ Text.display path ++
      " does not exist.".toList
  | badSettings cause => "Invalid value: ".toList ++ cause.message.toList

/-! ### Reading arguments -/

/-- What one argument chooses, and the option that takes the next argument as its value, if
there is one. -/
structure Chosen where
  /-- The choices. -/
  choices : List Choice
  /-- The name of the option that takes the next argument, and its choice. -/
  awaiting : Option (Text × (Text → Choice)) := none

/-- Reads the letters behind a dash. -/
def readShort : Text → Except UsageError Chosen
  | [] => .ok { choices := [] }
  | c :: rest =>
    match shortNames.lookup c with
    | none => .error (.noSuchOption ['-', c] [])
    | some (.flag choice) =>
      (readShort rest).map fun chosen => { chosen with choices := choice :: chosen.choices }
    | some (.valued choose) =>
      if rest = [] then .ok { choices := [], awaiting := some (['-', c], choose) }
      else .ok { choices := [choose rest] }

/-- The name of a long option in an argument, and its value if there is an equals sign. -/
def splitValue (argument : Text) : Text × Option Text :=
  match argument.dropWhile (· ≠ '=') with
  | [] => (argument, none)
  | _ :: value => (argument.takeWhile (· ≠ '='), some value)

/-- Reads an argument that starts with a dash. -/
def readOption (argument : Text) : Except UsageError Chosen :=
  let (name, value?) := splitValue argument
  match longNames.lookup name, value? with
  | some (.valued choose), some value => .ok { choices := [choose value] }
  | some (.valued choose), none => .ok { choices := [], awaiting := some (name, choose) }
  | some (.flag _), some _ => .error (.unexpectedValue name)
  | some (.flag choice), none => .ok { choices := [choice] }
  | none, _ =>
    match argument with
    | '-' :: '-' :: _ =>
      .error (.noSuchOption name (Text.closest name (longNames.map (·.1))))
    | _ => readShort (argument.drop 1)

/-- Whether an argument is an option. -/
def isOption (argument : Text) : Bool := argument.head? = some '-' && 1 < argument.length

/-- **Reading arguments**: the choices and the names in them. -/
def read : List Text → Except UsageError (List Choice × List Text)
  | [] => .ok ([], [])
  | argument :: rest =>
    if argument = ['-', '-'] then .ok ([], rest)
    else if isOption argument then
      match readOption argument with
      | .error e => .error e
      | .ok ⟨choices, none⟩ => (read rest).map fun r => (choices ++ r.1, r.2)
      | .ok ⟨choices, some (name, choose)⟩ =>
        match rest with
        | [] => .error (.missingValue name)
        | value :: rest => (read rest).map fun r => (choices ++ choose value :: r.1, r.2)
    else (read rest).map fun r => (r.1, argument :: r.2)

/-! ### Options -/

/-- **The options of a run.** -/
structure Options where
  /-- The output file. -/
  output : Option Text := none
  /-- The settings file. -/
  config : Option Text := none
  /-- The settings file of the formatter. -/
  formatterConfig : Option Text := none
  /-- Whether the formatter is used. -/
  format : Option Bool := none
  /-- The path of the property hook. -/
  hook : Option Text := none
  /-- Whether the output file is overwritten. -/
  force : Bool := false
  /-- Whether all messages are printed. -/
  verbose : Bool := false
  /-- Whether a description of the command is wanted. -/
  help : Bool := false
deriving DecidableEq, Repr

namespace Options

/-- The options after a choice. -/
def choose (o : Options) : Choice → Options
  | .output path => { o with output := some path }
  | .config path => { o with config := some path }
  | .formatterConfig path => { o with formatterConfig := some path }
  | .format wanted => { o with format := some wanted }
  | .hook path => { o with hook := some path }
  | .force => { o with force := true }
  | .verbose => { o with verbose := true }
  | .help => { o with help := true }

/-- **The options that some choices make.** -/
def ofChoices (choices : List Choice) : Options := choices.foldl choose {}

end Options

/-- Whether the output file is chosen before the settings file. -/
def outputFirst : List Choice → Bool
  | [] => true
  | .output _ :: _ => true
  | .config _ :: _ => false
  | _ :: rest => outputFirst rest

end ApiTypes.CommandLine
