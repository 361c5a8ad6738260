/-!
# Logs

What is noted down while the library works, for whoever wants to read it.
-/

set_option autoImplicit false

namespace Calculator

/-- How important a log entry is. -/
inductive Severity where
  | debug
  | warning
deriving DecidableEq, Repr

/-- The word for a severity. -/
def Severity.word : Severity → String
  | .debug => "DEBUG"
  | .warning => "WARNING"

/-- A line of a log. -/
structure LogEntry where
  severity : Severity
  message : String
deriving DecidableEq, Repr

end Calculator
