/-!
# Log lines

What the service tells its operator, apart from its answers.
-/

namespace FeeOracle

/-- How much a log line matters. -/
inductive LogLevel
  | info
  | warn
  | error
deriving DecidableEq, Repr

/-- A line of the log. -/
structure LogLine where
  level : LogLevel
  message : String
deriving DecidableEq, Repr

/-- The level as it is written. -/
def LogLevel.text : LogLevel → String
  | info => "INFO"
  | warn => "WARN"
  | error => "ERROR"

/-- The line as it is written, its level first. -/
def LogLine.text (line : LogLine) : String := line.level.text ++ " " ++ line.message

end FeeOracle
