/-!
# Log lines

What the program says about its work beside its reports.
-/

set_option autoImplicit false

namespace RouteAudit

/-- How much a line matters. -/
inductive Level where
  | debug
  | warning
  deriving DecidableEq, Repr

/-- The name of a level. -/
def Level.name : Level → String
  | .debug => "DEBUG"
  | .warning => "WARNING"

/-- One line of a log. -/
structure LogLine where
  level : Level
  /-- The part of the program that speaks. -/
  speaker : String
  message : String
  deriving DecidableEq, Repr

namespace LogLine

/-- The part of the program that walks and analyses. -/
def engine : String := "routelint.scanner.engine"

/-- The part of the program that writes pages. -/
def html : String := "routelint.report.html"

/-- The part of the program that runs commands. -/
def commands : String := "routelint.cli.common"

/-- The text of a line. -/
def text (l : LogLine) : String := l.level.name ++ " " ++ l.speaker ++ ": " ++ l.message

/-- The text of a line on a terminal, with the time of day in front. -/
def stamped (time : String) (l : LogLine) : String :=
  time ++ " [" ++ l.level.name ++ "] " ++ l.speaker ++ ": " ++ l.message ++ "\n"

/-- Whether a line is shown: one that only helps to find faults in the program has to be asked
for. -/
def isShown (verbose : Bool) (l : LogLine) : Bool :=
  match l.level with
  | .debug => verbose
  | .warning => true

end LogLine
end RouteAudit
