import ApiTypes.Calendar
import ApiTypes.CommandLine.Options
import ApiTypes.CommandLine.Run
import ApiTypes.Decimal.Shortest
import ApiTypes.Dialect
import ApiTypes.Document
import ApiTypes.Failure
import ApiTypes.Files.PathName
import ApiTypes.Files.Tree
import ApiTypes.Formatter
import ApiTypes.Generation
import ApiTypes.Hook.Catalogue
import ApiTypes.Hook.Member
import ApiTypes.Hook.Pass
import ApiTypes.Hook.Rule
import ApiTypes.Json
import ApiTypes.Log
import ApiTypes.Main
import ApiTypes.Numeral
import ApiTypes.Output.Check
import ApiTypes.Output.Save
import ApiTypes.Output.Settings
import ApiTypes.Output.Writer
import ApiTypes.Pointer
import ApiTypes.Proofs.Code.Assembly
import ApiTypes.Proofs.Code.Fragment
import ApiTypes.Proofs.Code.Lexeme
import ApiTypes.Proofs.Code.Module
import ApiTypes.Proofs.Code.Signatures
import ApiTypes.Proofs.Code.Token
import ApiTypes.Proofs.CommandLine.Arguments
import ApiTypes.Proofs.CommandLine.Course
import ApiTypes.Proofs.CommandLine.Effects
import ApiTypes.Proofs.CommandLine.Overwriting
import ApiTypes.Proofs.CommandLine.Printing
import ApiTypes.Proofs.CommandLine.Ways
import ApiTypes.Proofs.Document.Breaking
import ApiTypes.Proofs.Failing
import ApiTypes.Proofs.Files.Directories
import ApiTypes.Proofs.Formatter.Fallback
import ApiTypes.Proofs.Formatter.Probing
import ApiTypes.Proofs.Hook.Answers
import ApiTypes.Proofs.Hook.Compose
import ApiTypes.Proofs.Hook.Coverage
import ApiTypes.Proofs.Hook.Edits
import ApiTypes.Proofs.Hook.Level
import ApiTypes.Proofs.Hook.Marks
import ApiTypes.Proofs.Hook.Optionality
import ApiTypes.Proofs.Hook.Paths
import ApiTypes.Proofs.Hook.Places
import ApiTypes.Proofs.Hook.Questions
import ApiTypes.Proofs.Hook.Remembering
import ApiTypes.Proofs.Hook.Required
import ApiTypes.Proofs.Hook.Total
import ApiTypes.Proofs.Hook.Writing
import ApiTypes.Proofs.Output.Atomic
import ApiTypes.Proofs.Output.Runs
import ApiTypes.Proofs.Output.Saving
import ApiTypes.Proofs.Output.Ways
import ApiTypes.Proofs.Pointer.Access
import ApiTypes.Proofs.Pointer.Named
import ApiTypes.Proofs.Schema.Alike
import ApiTypes.Proofs.Schema.Ignored
import ApiTypes.Proofs.Schema.Keywords
import ApiTypes.Proofs.Schema.Nullable
import ApiTypes.Proofs.Schema.Rendered
import ApiTypes.Proofs.Schema.RequiredNames
import ApiTypes.Proofs.Schema.Unambiguous
import ApiTypes.Proofs.Settings.Keeping
import ApiTypes.Proofs.Settings.RoundTrip
import ApiTypes.Proofs.Settings.Sections
import ApiTypes.Proofs.Text.Infix
import ApiTypes.Proofs.Text.Trimming
import ApiTypes.Proofs.TypeScript.CommentLines
import ApiTypes.Proofs.TypeScript.Formed
import ApiTypes.Proofs.TypeScript.Literal
import ApiTypes.Proofs.TypeScript.Operand
import ApiTypes.Proofs.TypeScript.ReadBack
import ApiTypes.Proofs.Value.OneLine
import ApiTypes.Proofs.Value.SameKey
import ApiTypes.Proofs.Version.Leading
import ApiTypes.Proofs.Yaml.Building
import ApiTypes.Proofs.Yaml.Lexical
import ApiTypes.Proofs.Yaml.Reading
import ApiTypes.Proofs.Yaml.Refusal
import ApiTypes.Schema.Category
import ApiTypes.Schema.Node
import ApiTypes.Schema.Type
import ApiTypes.Settings.Basic
import ApiTypes.Settings.Stored
import ApiTypes.Text.Basic
import ApiTypes.Text.Blank
import ApiTypes.Text.Digit
import ApiTypes.Text.Lower
import ApiTypes.Text.Printable
import ApiTypes.Text.Quoted
import ApiTypes.Text.Similar
import ApiTypes.Text.Surrogate
import ApiTypes.Text.Terminal
import ApiTypes.Text.Utf8
import ApiTypes.TypeScript.DocComment
import ApiTypes.TypeScript.Expr
import ApiTypes.TypeScript.Module
import ApiTypes.TypeScript.Quote
import ApiTypes.TypeScript.Written
import ApiTypes.Value.Basic
import ApiTypes.Value.Display
import ApiTypes.Value.Equal
import ApiTypes.Version
import ApiTypes.Yaml.Cursor
import ApiTypes.Yaml.Node
import ApiTypes.Yaml.Reader
import ApiTypes.Yaml.Scalar
import ApiTypes.Yaml.Scalars
import ApiTypes.Yaml.Tag
import ApiTypes.Yaml.Token
import ApiTypes.Yaml.Value
