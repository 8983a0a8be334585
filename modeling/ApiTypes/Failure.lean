import ApiTypes.Dialect
import ApiTypes.Value.Display

/-!
# What can go wrong

Every failure of the library is a cause, a value of `ApiTypes.Failure`; its wording is
`ApiTypes.Failure.message`, which is the only place where messages are put together.
Failures of the file system are causes of their own (`ApiTypes.FileError`), with the
number and the description under which the system reports them.
-/

namespace ApiTypes

/-- What is wrong with a path in the file system. -/
inductive FileError where
  /-- Nothing is at the path. -/
  | notFound
  /-- The path is taken. -/
  | exists
  /-- A directory is needed where there is something else. -/
  | notDirectory
  /-- A file is needed where there is a directory. -/
  | isDirectory
  /-- The operation is not permitted. -/
  | notPermitted
  /-- A name in the path is too long, or the path is. -/
  | nameTooLong
  /-- The path names a directory by dots, and cannot be replaced. -/
  | busy
  /-- The path holds a null character, with which it cannot be passed to the system. -/
  | embeddedNull
deriving DecidableEq, Repr

namespace FileError

/-- The number of a file error, if it comes from the system. -/
def number? : FileError → Option Nat
  | notFound => some 2
  | notPermitted => some 13
  | «exists» => some 17
  | notDirectory => some 20
  | isDirectory => some 21
  | nameTooLong => some 36
  | busy => some 16
  | embeddedNull => none

/-- The description of a file error. -/
def description : FileError → String
  | notFound => "No such file or directory"
  | notPermitted => "Permission denied"
  | «exists» => "File exists"
  | notDirectory => "Not a directory"
  | isDirectory => "Is a directory"
  | nameTooLong => "File name too long"
  | busy => "Device or resource busy"
  | embeddedNull => "embedded null byte"

/-- The full wording of a file error at a path, which is displayed in quotes if the error
comes from the system. -/
def report (e : FileError) (path : Text) : String :=
  match e.number? with
  | some n =>
    "[Errno " ++ String.ofList (Text.ofNat n) ++ "] " ++ e.description ++ ": " ++
      String.ofList (Text.display path)
  | none => e.description

end FileError

/-- **The cause of a failure.** -/
inductive Failure where
  /-- A description declares neither of the two dialects. -/
  | undetectedVersion
  /-- A description has no named schemas where its dialect keeps them. -/
  | missingSchemas (dialect : Dialect)
  /-- A document cannot be read. -/
  | unreadable (source : Text) (cause : FileError) (path : Text)
  /-- A document is blank. -/
  | noDocument (name : Text)
  /-- A document is no mapping. -/
  | notMapping (kind : Kind)
  /-- A document that should be JSON is none. -/
  | invalidJson
  /-- A document is neither JSON nor YAML. -/
  | unparsable
  /-- A file is not in the encoding UTF-8. -/
  | undecodable (detail : String)
  /-- A text with surrogates has no encoding. -/
  | unencodable (run : Text.SurrogateRun)
  /-- A scalar names a date or a time that does not exist. -/
  | noSuchTime (cause : CalendarError)
  /-- A scalar is no integer in its base. -/
  | notInteger (base : Nat) (text : Text)
  /-- A scalar is no number of double precision. -/
  | notFloat (text : Text)
  /-- A scalar is no truth value. -/
  | notTruthValue (text : Text)
  /-- A scalar is no time stamp. -/
  | notTimestamp
  /-- A number is beyond the range of the numbers of double precision. -/
  | beyondDoubles
  /-- A scalar that should be a number is empty. -/
  | emptyNumber
  /-- What should be a text is of another kind. -/
  | notText (kind : Kind)
  /-- An escape names a number that is no code point. -/
  | noCodePoint (n : Nat)
  /-- A property hook refuses a property with a message of its own. -/
  | refused (message : String)
  /-- Something has no attribute of that name; `owner` says what it is. -/
  | noAttribute (owner : String) (name : Text)
  /-- A value is called that cannot be called. -/
  | notCallable (kind : Kind)
  /-- A class without parameters is called with some. -/
  | takesNoArguments (className : String)
  /-- Something is called with arguments that it does not take, and says so in its own
  words. -/
  | wrongCall (message : String)
  /-- A value cannot be a key. -/
  | unhashable (kind : Kind)
  /-- Generated code has no interface. -/
  | noInterface
  /-- Generated code has unbalanced braces. -/
  | unbalanced (opening closing : Nat)
  /-- A check refuses some code. -/
  | rejected
  /-- The output file is already there. -/
  | outputExists (path : Text)
  /-- The file system refuses an operation. -/
  | file (cause : FileError) (path : Text)
  /-- The formatter settings have no field of that name. -/
  | unknownField (name : Text)
  /-- The name of a field is no string. -/
  | fieldNotString
  /-- The formatter settings have a field of that name already. -/
  | repeatedField (name : Text)
  /-- The name of a setting is no string. -/
  | nameNotString (kind : Kind)
  /-- The class of the settings cannot be a value. -/
  | notClass (kind : Kind)
  /-- All settings at once cannot be anything but a mapping. -/
  | notDictionary (kind : Kind)
  /-- An attribute of the settings cannot be written. -/
  | notWritable (name : Text)
  /-- A settings file is no JSON. -/
  | malformedSettings
  /-- There is no such output mode. -/
  | unknownMode (name : Text)
  /-- A path to a hook is not of the form `module:function`. -/
  | malformedHookPath (path : Text)
  /-- A path to a hook leads to something that cannot be called. -/
  | hookNotCallable (path : Text)
  /-- There is no such module. -/
  | noModule (name : Text)
  /-- There is no such module, because the one it should be in holds no modules. -/
  | noPackage (name parent : Text)
  /-- A module is named relative to a package that is not given. -/
  | relativeModule (name : Text)
  /-- A text of one kind is expected in a list of texts. -/
  | sequenceItem (index : Nat) (kind : Kind)
  /-- Something cannot be gone through item by item. -/
  | notIterable (kind : Kind)
  /-- What should be the name of a path is of another kind. -/
  | notPath (kind : Kind)
deriving DecidableEq, Repr

namespace Failure

/-- The name of a kind of document in the message for a document that is no mapping. -/
def documentKind : Kind → String
  | .null => "empty document"
  | k => k.name

/-- A kind of values as the owner of attributes. -/
def owner (kind : Kind) : String := "'" ++ kind.name ++ "' object"

/-- The name of the class of the settings in messages. -/
def settingsClass : String := "CodeGeneratorConfig"

/-- The most characters of a displayed text in the message for what is no integer. -/
def displayLimit : Nat := 200

/-- **The wording of a failure.** -/
def message : Failure → String
  | undetectedVersion =>
    "version missing from schema; specify whether this is OpenAPI v3 or v2 " ++
      "https://swagger.io/specification"
  | missingSchemas .swagger2 =>
    "'definitions' missing from schema https://swagger.io/specification/v2/#definitions-object"
  | missingSchemas .openapi3 =>
    "'components' missing from schema https://swagger.io/specification"
  | unreadable source cause path =>
    "Failed to read " ++ String.ofList source ++ ": " ++ cause.report path
  | noDocument name => "No document found in " ++ String.ofList name
  | notMapping kind =>
    "Document must be a JSON/YAML object (got " ++ documentKind kind ++ ")"
  | invalidJson => "Invalid JSON"
  | unparsable => "Failed to parse document as JSON or YAML"
  | undecodable detail => detail
  | unencodable run => run.message
  | noSuchTime cause => String.ofList cause.message
  | notInteger base text =>
    "invalid literal for int() with base " ++ String.ofList (Text.ofNat base) ++ ": " ++
      String.ofList ((Text.display text).take displayLimit)
  | notFloat text =>
    "could not convert string to float: " ++ String.ofList (Text.display text)
  | notTruthValue text => String.ofList (Text.display text)
  | notTimestamp => "'NoneType' object has no attribute 'groupdict'"
  | beyondDoubles => "int too large to convert to float"
  | emptyNumber => "string index out of range"
  | notText kind => "expected string or bytes-like object, got '" ++ kind.name ++ "'"
  | noCodePoint n =>
    if n < Nat.pow 2 31 then "chr() arg not in range(0x110000)"
    else "Python int too large to convert to C int"
  | refused message => message
  | noAttribute owner name =>
    owner ++ " has no attribute '" ++ String.ofList name ++ "'"
  | notCallable kind => owner kind ++ " is not callable"
  | takesNoArguments className => className ++ "() takes no arguments"
  | wrongCall message => message
  | unhashable kind => "unhashable type: '" ++ kind.name ++ "'"
  | noInterface => "Generated TypeScript has no exported interface"
  | unbalanced opening closing =>
    "Generated TypeScript has unbalanced braces: " ++ String.ofList (Text.ofNat opening) ++
      " open, " ++ String.ofList (Text.ofNat closing) ++ " close"
  | rejected => "rejected"
  | outputExists path =>
    "Output file already exists: " ++ String.ofList path ++ ". Use --force to overwrite."
  | file cause path => cause.report path
  | unknownField name =>
    "FormatterConfig.__init__() got an unexpected keyword argument '" ++
      String.ofList name ++ "'"
  | fieldNotString => "keywords must be strings"
  | repeatedField name =>
    "FormatterConfig.__init__() got multiple values for argument '" ++
      String.ofList name ++ "'"
  | nameNotString kind => "attribute name must be string, not '" ++ kind.name ++ "'"
  | notClass kind => "__class__ must be set to a class, not '" ++ kind.name ++ "' object"
  | notDictionary kind => "__dict__ must be set to a dictionary, not a '" ++ kind.name ++ "'"
  | notWritable name =>
    "attribute '" ++ String.ofList name ++ "' of '" ++ settingsClass ++
      "' objects is not writable"
  | malformedSettings => "<json error>"
  | unknownMode name => String.ofList (Text.display name) ++ " is not a valid OutputMode"
  | malformedHookPath path =>
    "Property mapper must be given as 'module:function', got '" ++ String.ofList path ++ "'"
  | hookNotCallable path =>
    "Property mapper '" ++ String.ofList path ++ "' is not callable"
  | noModule name => "No module named " ++ String.ofList (Text.display name)
  | noPackage name parent =>
    "No module named " ++ String.ofList (Text.display name) ++ "; " ++
      String.ofList (Text.display parent) ++ " is not a package"
  | relativeModule name =>
    "the 'package' argument is required to perform a relative import for " ++
      String.ofList (Text.display name)
  | sequenceItem index kind =>
    "sequence item " ++ String.ofList (Text.ofNat index) ++ ": expected str instance, " ++
      kind.name ++ " found"
  | notIterable kind => owner kind ++ " is not iterable"
  | notPath kind =>
    "unsupported operand type(s) for /: 'PosixPath' and '" ++ kind.name ++ "'"

end Failure

end ApiTypes
