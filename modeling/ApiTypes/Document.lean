import ApiTypes.Files.Tree
import ApiTypes.Json
import ApiTypes.Text.Blank
import ApiTypes.Yaml.Value

/-!
# Documents

A document is a mapping written in JSON or in YAML. Which of the two it is may be known
beforehand (`ApiTypes.Document.Hint`), from the suffix of a file name for instance;
otherwise the text is read as JSON first, and as YAML when that fails. A text that is
JSON, but no mapping, is not read again.

Documents come from a file or from the standard input, under the name
`ApiTypes.Document.standardInput`.
-/

namespace ApiTypes.Document

/-- What is known about the format of a document. -/
inductive Hint where
  /-- It is JSON. -/
  | json
  /-- It is YAML. -/
  | yaml
  /-- It is one of the two. -/
  | unknown
deriving DecidableEq, Repr

/-- The entries of a value that has to be a mapping. -/
def entries (v : Value) : Except Failure Entries :=
  match v with
  | .map es => .ok es
  | v => .error (.notMapping v.kind)

/-- **Reading the text of a document.** -/
def parse (hint : Hint) (t : Text) : Except Failure Entries :=
  match hint with
  | .yaml => Yaml.parse t >>= entries
  | .json =>
    match Json.parse? t with
    | some v => entries v
    | none => .error .invalidJson
  | .unknown =>
    match Json.parse? t with
    | some v => entries v
    | none => Yaml.parse t >>= entries

/-- The name under which documents come from the standard input. -/
def standardInput : Text := ['-']

/-- The format that the suffix of a file name tells, in letters of either case. -/
def Hint.ofSuffix (suffix : Text) : Hint :=
  match String.ofList (suffix.map Char.toLower) with
  | ".json" => .json
  | ".yaml" | ".yml" => .yaml
  | _ => .unknown

/-- The text of the file that `source` names, with its line ends unified. -/
def readFile (tree : FileTree) (source : Text) : Except Failure Text :=
  let name := PathName.ofText source
  match tree.read name with
  | .error .embeddedNull => .error (.file .embeddedNull name.text)
  | .error e => .error (.unreadable source e name.text)
  | .ok bytes =>
    match Text.decodeUtf8 bytes with
    | .error e => .error (.undecodable e.message)
    | .ok t => .ok (Text.unifyLineEnds t)

/-- Reads a text that must not be blank. -/
def parseNonblank (name : Text) (hint : Hint) (t : Text) : Except Failure Entries :=
  if (Text.trim t).isEmpty then .error (.noDocument name) else parse hint t

/-- **Loading a document** from the file that `source` names, or from the standard input. -/
def load (tree : FileTree) (input source : Text) : Except Failure Entries :=
  if source = standardInput then parseNonblank ['s', 't', 'd', 'i', 'n'] .unknown input
  else do
    let t ← readFile tree source
    parseNonblank source (Hint.ofSuffix (PathName.ofText source).suffix) t

end ApiTypes.Document
