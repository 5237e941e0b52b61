import RouteAudit.CommandLine.Options

/-!
# Commands and their help

The program has two commands.  What can be given to it and to them, and what their help says, is
data; the help is laid out from it.
-/

set_option autoImplicit false

namespace RouteAudit
namespace CommandLine

/-- The commands. -/
inductive Command where
  | analyze
  | debug
  deriving DecidableEq, Repr

namespace Command

/-- The commands in the order of their names. -/
def all : List Command := [.analyze, .debug]

/-- The name of a command. -/
def name : Command → String
  | .analyze => "analyze"
  | .debug => "debug"

/-- The command of a name. -/
def ofName? (s : String) : Option Command := all.find? (·.name == s)

/-- A command is found by its name. -/
@[simp] theorem ofName?_name (c : Command) : ofName? c.name = some c := by cases c <;> decide

/-- What a command does, in one sentence. -/
def about : Command → String
  | .analyze => "Analyze React Router patterns that may cause unmounting/remounting."
  | .debug => "Analyze route files and build an interactive debug report."

/-- What else there is to say about a command, line by line. -/
def details : Command → List String
  | .analyze => ["Exits with status 1 when console output reports any issue."]
  | .debug =>
    ["Writes HTML unless --json is given alone. The report embeds a live route",
      "monitor for use in the browser."]

end Command

/-- The option that asks for help. -/
def helpOption : OptionSpec where
  id := .help
  long := "--help"
  short := some 'h'
  about := "Show this message and exit."

/-- The option that names the file of the report. -/
def outputOption : OptionSpec where
  id := .output
  long := "--output"
  short := some 'o'
  value := some "FILE"
  about := "HTML report path (default: docs/index.html)."

/-- The options of the program. -/
def programOptions : List OptionSpec := [
  { id := .version, long := "--version", about := "Show the version and exit." },
  { id := .verbose, long := "--verbose", short := some 'v'
    about := "Enable debug logging on stderr." },
  helpOption]

/-- The options of a command. -/
def Command.options : Command → List OptionSpec
  | .analyze => [
    { id := .verbose, long := "--verbose", short := some 'v'
      about := "Show detailed file-by-file analysis." },
    { id := .json, long := "--json", short := some 'j', about := "Output results as JSON." },
    helpOption]
  | .debug => [
    { id := .verbose, long := "--verbose", short := some 'v'
      about := "Show detailed file-by-file analysis." },
    { id := .json, long := "--json", short := some 'j', about := "Output results as JSON." },
    { id := .html, long := "--html"
      about := "Generate an interactive HTML report (the default)." },
    outputOption,
    helpOption]

/-- The name of the program. -/
def programName : String := "routelint"

/-- The version of the program. -/
def versionText : String := programName ++ ", version 0.1.0\n"

/-- What help is asked for: that of the program, or that of a command. -/
inductive Topic where
  | program
  | command (c : Command)

namespace Topic

/-- How the topic is called. -/
def path : Topic → String
  | .program => programName
  | .command c => programName ++ " " ++ c.name

/-- The line that says what can be given. -/
def usage : Topic → String
  | .program => "Usage: " ++ programName ++ " [OPTIONS] COMMAND [ARGS]...\n"
  | .command c => "Usage: " ++ programName ++ " " ++ c.name ++ " [OPTIONS] [DIRECTORY]\n"

/-- The text about the topic, line by line. -/
def about : Topic → List String
  | .program => ["routelint — find React Router patterns that cause component remounts."]
  | .command c => c.about :: "" :: c.details

/-- The options of the topic. -/
def options : Topic → List OptionSpec
  | .program => programOptions
  | .command c => c.options

end Topic

/-- The names of an option as the help shows them. -/
def OptionSpec.shown (s : OptionSpec) : String :=
  (match s.short with
    | some c => "-" ++ String.singleton c ++ ", "
    | none => "")
  ++ s.long
  ++ (match s.value with
    | some v => " " ++ v
    | none => "")

/-- Two columns, the second as far left as the first allows. -/
def twoColumns (rows : List (String × String)) : String :=
  let width := (rows.map fun r => r.1.length).foldl max 0
  String.join (rows.map fun r =>
    "  " ++ r.1 ++ "".pushn ' ' (width + 2 - r.1.length) ++ r.2 ++ "\n")

/-- The help on a topic. -/
def Topic.help (t : Topic) : String :=
  t.usage ++ "\n"
    ++ String.join (t.about.map fun l => (if l = "" then "" else "  " ++ l) ++ "\n")
    ++ "\nOptions:\n" ++ twoColumns (t.options.map fun s => (s.shown, s.about))
    ++ (match t with
      | .program => "\nCommands:\n" ++ twoColumns (Command.all.map fun c => (c.name, c.about))
      | .command _ => "")

/-- What is printed about a fault in the arguments. -/
def Topic.complain (t : Topic) (f : UsageFault) : String :=
  (if f.showsUsage then t.usage ++ "Try '" ++ t.path ++ " --help' for help.\n\n" else "")
    ++ "Error: " ++ f.message ++ "\n"

end CommandLine
end RouteAudit
