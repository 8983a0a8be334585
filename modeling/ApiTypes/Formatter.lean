import ApiTypes.Files.Tree
import ApiTypes.Log
import ApiTypes.Text.Blank

/-!
# The external formatter

Generated code can be sent through an external formatter, a command that reads code and
prints it. Before its first use a command is probed once, by asking for its version, and
the answer is remembered. A formatter that is missing or that fails is no failure of the
run: the code stays as it is, and a warning is logged.

The commands themselves are outside of this library: what happens when one is started is
given as a list of outcomes (`ApiTypes.Formatter.Outcome`), one for each start, and what
was started is recorded. A session (`ApiTypes.Formatter.Session`) holds all that. When no
outcome is left the command does not exist.
-/

namespace ApiTypes.Formatter

/-- **The settings of the formatter**, as they are stored: the values of a settings file
are not looked at before they are used. -/
structure Settings where
  /-- Whether code is formatted at all. -/
  enabled : Value := .bool false
  /-- The words of the command. -/
  command : Value := .list [.str "prettier"]
  /-- The name of the grammar that the formatter is told to use. -/
  parser : Value := .str "typescript"
  /-- The path of a file with settings for the formatter itself. -/
  configPath : Value := .null

/-- What happens when a command is started. -/
inductive Outcome where
  /-- It ends, with a number and with what it has printed. -/
  | exit (code : Int) (output errors : Text)
  /-- It does not exist. -/
  | missing
  /-- It may not be started. -/
  | notPermitted
  /-- It does not end in time, with what is said about that. -/
  | timeout (message : Text)
  /-- It ends with a number that is refused, with what is said about that. -/
  | refused (message : Text)
deriving DecidableEq, Repr

/-- A start of a command. -/
structure Start where
  /-- The words of the command. -/
  words : List Value
  /-- What the command reads, if it reads anything. -/
  input : Option Text
  /-- The seconds after which it is stopped. -/
  seconds : Nat

/-- **A session with the formatter.** -/
structure Session where
  /-- What happens at the next starts. -/
  outcomes : List Outcome := []
  /-- The starts so far, the latest first. -/
  starts : List Start := []
  /-- The messages so far, the latest first. -/
  messages : List Log.Message := []
  /-- The answers of the probes. -/
  probes : List (List Value × Bool) := []

/-- Work in a session, which can fail and still leaves the session behind. -/
abbrev Work := ExceptT Failure (StateM Session)

/-- Logs a message. -/
def log (level : Log.Level) (source : Log.Source) (text : Text) : Work Unit :=
  modify fun s => { s with messages := ⟨level, source, text⟩ :: s.messages }

/-- Logs a warning of the formatter. -/
def warn (text : Text) : Work Unit := log .warning .formatter text

/-- Starts a command. -/
def start (words : List Value) (input : Option Text) (seconds : Nat) : Work Outcome := do
  let s ← get
  let started := ⟨words, input, seconds⟩ :: s.starts
  match s.outcomes with
  | [] =>
    set { s with starts := started }
    return .missing
  | outcome :: rest =>
    set { s with starts := started, outcomes := rest }
    return outcome

/-! ### Commands -/

/-- The words of a command: the items of a list, the keys of a mapping, the characters of a
string. -/
def words : Value → Except Failure (List Value)
  | .list items => .ok items
  | .set items => .ok items
  | .map es => .ok (es.map (·.1))
  | .str s => .ok (s.toList.map fun c => .str (String.ofList [c]))
  | .pair a b => .ok [a, b]
  | .bytes bs => .ok (bs.map fun b => .int b.toNat)
  | v => .error (.notIterable v.kind)

/-- Whether a value can be remembered by: containers that can change cannot. -/
def keyable : Value → Bool
  | .list _ | .map _ | .set _ => false
  | _ => true

/-- Whether two commands are the same. -/
def sameWords : List Value → List Value → Bool
  | [], [] => true
  | v :: vs, w :: ws => v.sameKey w && sameWords vs ws
  | _, _ => false

/-- The words of a command with spaces between them. -/
def line (index : Nat) : List Value → Except Failure (List Text)
  | [] => .ok []
  | .str s :: rest => (line (index + 1) rest).map (s.toList :: ·)
  | v :: _ => .error (.sequenceItem index v.kind)

/-- The answer of the probe of a command, if it is known. -/
def probed? (session : Session) (command : List Value) : Option Bool :=
  (session.probes.find? fun p => sameWords p.1 command).map (·.2)

/-- **Whether a command can be used.** It is probed unless its answer is known; only a probe
that is not permitted stays without an answer. -/
def available (settings : Settings) : Work Bool := do
  let command ← words settings.command
  match command.find? fun v => !keyable v with
  | some v => throw (.unhashable v.kind)
  | none =>
    match probed? (← get) command with
    | some answer => return answer
    | none =>
      let outcome ← start (command ++ [.str "--version"]) none 30
      let answer ← match outcome with
        | .exit code _ _ => pure (code = 0 : Bool)
        | .notPermitted => throw (.file .notPermitted [])
        | .missing | .timeout _ | .refused _ => pure false
      modify fun s => { s with probes := (command, answer) :: s.probes }
      return answer

/-! ### Formatting -/

/-- The words that name the settings file of the formatter. It has to be a file; otherwise
a warning is logged. -/
def configWords (tree : FileTree) (directory : Text) (settings : Settings) :
    Work (List Value) := do
  if !settings.configPath.truthy then return []
  match settings.configPath with
  | .str s =>
    let path := (PathName.ofText s.toList).shown directory
    match tree.isFile path with
    | .error e => throw (.file e path.text)
    | .ok true => return [.str "--config", .str (String.ofList path.text)]
    | .ok false =>
      warn ("prettier config ".toList ++ path.text ++ " not found, using defaults".toList)
      return []
  | v => throw (.notPath v.kind)

/-- The words that a command is given to format code. -/
def formatWords (settings : Settings) : List Value :=
  [.str "--parser", settings.parser, .str "--stdin-filepath", .str "schema.ts"]

/-- **Formatting code**, in the working directory `directory`. -/
def format (tree : FileTree) (directory : Text) (settings : Settings) (code : Text) :
    Work Text := do
  let usable ← available settings
  let command ← words settings.command
  if !usable then
    let texts ← line 0 command
    warn ("prettier is not available (".toList ++ Text.join [' '] texts ++
      "), leaving output unformatted".toList)
    return code
  let config ← configWords tree directory settings
  match ← start (command ++ formatWords settings ++ config) (some code) 60 with
  | .exit code' output errors =>
    if code' = 0 then return output
    warn ("prettier exited with ".toList ++ Text.ofInt code' ++ ": ".toList ++ Text.trim errors)
    return code
  | .timeout message | .refused message =>
    warn ("prettier failed: ".toList ++ message)
    return code
  | .missing => throw (.file .notFound [])
  | .notPermitted => throw (.file .notPermitted [])

end ApiTypes.Formatter
