/-!
# Log Lines

What the gateway reports while it works: a level and a text.
-/

namespace NodeGateway

/-- The **level** of a log line. -/
inductive LogLevel where
  | debug
  | info
  | warn
  | error
  deriving DecidableEq, Repr

/-- The written form of a level. -/
def LogLevel.name : LogLevel → String
  | debug => "DEBUG"
  | info => "INFO"
  | warn => "WARN"
  | error => "ERROR"

/-- A **log line**. -/
structure LogLine where
  level : LogLevel
  text : String
  deriving DecidableEq, Repr

/-- The written form of a log line. -/
def LogLine.render (line : LogLine) : String := line.level.name ++ " " ++ line.text

end NodeGateway
