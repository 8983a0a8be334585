import ApiTypes.Text.Basic

/-!
# Log messages

A run leaves log messages behind: what was found, and what went wrong without stopping
the run. Each has a level and a source.
-/

namespace ApiTypes.Log

/-- The weight of a message. -/
inductive Level where
  /-- For those who look into the run. -/
  | debug
  /-- For those who use its result. -/
  | warning
deriving DecidableEq, Repr

/-- The part of a run that a message comes from. -/
inductive Source where
  /-- The generation of the module. -/
  | generator
  /-- The formatter. -/
  | formatter
deriving DecidableEq, Repr

/-- **A log message.** -/
structure Message where
  /-- Its weight. -/
  level : Level
  /-- Where it comes from. -/
  source : Source
  /-- What it says. -/
  text : Text
deriving DecidableEq, Repr

/-- The name of a level. -/
def Level.name : Level → String
  | debug => "DEBUG"
  | warning => "WARNING"

/-- The name of a source. -/
def Source.name : Source → String
  | generator => "openapi_to_ts.pipeline.generator"
  | formatter => "openapi_to_ts.pipeline.formatters.prettier_formatter"

/-- The line of a message. -/
def Message.line (m : Message) : Text :=
  (m.level.name ++ " " ++ m.source.name ++ ": ").toList ++ m.text ++ ['\n']

end ApiTypes.Log
