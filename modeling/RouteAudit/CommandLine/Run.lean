import RouteAudit.CommandLine.Usage
import RouteAudit.Report.Console
import RouteAudit.Report.Write
import RouteAudit.Scan
import RouteAudit.Settings

/-!
# Running the program

`run` takes the arguments of the program and the files it runs on, and gives what it prints, how it
ends and the files as they are then.  It exits with 2 when the arguments are wrong, and with 1 when
the target is not there, when the report cannot be written, and when issues were found and printed.

A command catches what goes wrong while it analyses and writes, and says so.  Nothing is caught
while the target is looked for, nor when the results are printed: a failure there breaks the run
off.  The streams that it prints to take every text.
-/

set_option autoImplicit false

namespace RouteAudit
namespace CommandLine

/-- The texts for the time of a run. -/
structure Clock where
  /-- For a result. -/
  timestamp : String
  /-- For a page. -/
  generated : String
  /-- For a line of the log. -/
  time : String

/-- What goes wrong in a command. -/
inductive Crash where
  | path (f : FileTree.ResolveFault)
  | file (f : FileFault)
  | markup (f : Terminal.MarkupFault)
  | report (f : Yaml.ReportFault)

/-- A sentence about the failure. -/
def Crash.message : Crash → String
  | .path f => f.message
  | .file f => f.message
  | .markup f => f.message
  | .report f => f.message

/-- A report that cannot be written. -/
def Crash.ofWrite : Report.WriteFault → Crash
  | .file f => .file f
  | .report f => .report f

theorem Crash.message_ofWrite (f : Report.WriteFault) : (ofWrite f).message = f.message := by
  cases f <;> rfl

/-- What the program runs on. -/
structure Setup where
  tree : FileTree
  /-- The value of the variable that names the place of the report. -/
  output : Option String := none
  clock : Clock
  /-- How the log tells where in the program something went wrong, which depends on how it is
  installed. -/
  trace : Crash → String := Crash.message

/-- The end of a run. -/
structure Outcome where
  /-- The exit status. -/
  exit : Nat := 0
  out : String := ""
  err : String := ""
  /-- A failure that broke the run off. -/
  crash : Option Crash := none
  /-- Where the report was written to. -/
  written : Option Path := none
  tree : FileTree

namespace Setup

/-- A run that ends with a text. -/
def prints (s : Setup) (out : String) : Outcome := { out, tree := s.tree }

/-- A run that ends with a complaint about its arguments. -/
def complains (s : Setup) (t : Topic) (f : UsageFault) : Outcome :=
  { exit := 2, err := t.complain f, tree := s.tree }

/-- A run that ends with a failure that is not reported. -/
def crashes (s : Setup) (c : Crash) : Outcome := { exit := 1, crash := some c, tree := s.tree }

/-- The screen of the program. -/
def screen : Report.Screen := {}

/-- What is printed for a markup. -/
def shown (markup : String) : Except Terminal.MarkupFault String :=
  (screen.print markup.toList).map String.ofList

/-- A text as markup. -/
def escaped (s : String) : String := String.ofList (Terminal.escape s.toList)

/-- The log as it is printed. -/
def logText (s : Setup) (verbose : Bool) (log : List LogLine) : String :=
  String.join ((log.filter (·.isShown verbose)).map (·.stamped s.clock.time))

/-- The complaint that a target is not there. -/
def missingText (target : Path) : Except Terminal.MarkupFault String :=
  shown ("[red]❌ Error: Path does not exist: " ++ escaped target.text ++ "[/red]")

/-- The complaint that something went wrong. -/
def failureText (message : String) : Except Terminal.MarkupFault String :=
  shown ("[red]❌ Analysis failed: " ++ escaped message ++ "[/red]")

/-- How many issues were found. -/
def countsMarkup (a : Analysis) : String :=
  "Analyzed " ++ toString a.stats.analyzed ++ " files, found " ++ toString a.issues.length
    ++ " issues"

/-- That the report was written. -/
def writtenMarkup (place : Path) : String :=
  "[green]✅ HTML report generated: " ++ escaped place.text ++ "[/green]"

end Setup

namespace Outcome

/-- Ends a run with a complaint.  One that cannot be printed breaks it off. -/
def complaining (o : Outcome) (complaint : Except Terminal.MarkupFault String) : Outcome :=
  match complaint with
  | .ok text => { o with exit := 1, err := o.err ++ text }
  | .error f => { o with exit := 1, crash := some (.markup f) }

/-- Prints markups one after the other.  One that cannot be printed breaks the run off. -/
def printing (o : Outcome) : List String → Outcome
  | [] => o
  | markup :: markups =>
    match Setup.shown markup with
    | .ok text => { o with out := o.out ++ text }.printing markups
    | .error f => { o with exit := 1, crash := some (.markup f) }

end Outcome

namespace Setup

/-- Ends a run that something went wrong in: the log says where, and a complaint says what. -/
def fails (s : Setup) (logged : Bool) (o : Outcome) (f : Crash) : Outcome :=
  let line : LogLine := ⟨.debug, LogLine.commands, "Analysis failed\n" ++ s.trace f⟩
  { o with err := o.err ++ s.logText logged [line] }.complaining (failureText f.message)

/-- The directory to analyse: the one that is given, or the working directory. -/
def target (s : Setup) (directory : Option String) : Except FileTree.ResolveFault Path :=
  match directory with
  | none => s.tree.here
  | some d => if d = "" then s.tree.here else s.tree.resolve (Path.ofString d)

/-- The report of an analysis as JSON, printed. -/
def printsJson (s : Setup) (a : Analysis) (err : String) : Outcome :=
  match a.jsonText with
  | .ok text => { out := text ++ "\n", err, tree := s.tree }
  | .error f => { s.crashes (.report f) with err }

/-- Analyses a directory and prints what was found. -/
def analyze (s : Setup) (logged : Bool) (p : Parsed) (target : Path) : Outcome :=
  let json := p.has .json
  match (if json then .ok [] else screen.header target.text "Route Analyzer") with
  | .error f => s.fails logged { tree := s.tree } (.markup f)
  | .ok header =>
    let header := String.ofList header
    match scan { timestamp := s.clock.timestamp } s.tree target with
    | .error f => s.fails logged { out := header, tree := s.tree } (.path f)
    | .ok (a, log) =>
      let err := s.logText logged log
      if json then s.printsJson a err
      else
        match screen.results a (p.has .verbose) with
        | .error f => { s.crashes (.markup f) with out := header, err }
        | .ok results =>
          { exit := if a.issues.isEmpty then 0 else 1
            out := header ++ String.ofList results
            err
            tree := s.tree }

/-- Where the report goes: to the file that is given, or to where the settings say. -/
def reportPlace (output : Option String) (p : Parsed) : Path :=
  match p.value? .output with
  | some o => Path.ofString o
  | none => outputPath output

/-- Analyses a directory and writes the debug report, or prints it as JSON. -/
def debug (s : Setup) (logged : Bool) (p : Parsed) (target : Path) : Outcome :=
  match scan { extended := true, timestamp := s.clock.timestamp } s.tree target with
  | .error f => s.fails logged { tree := s.tree } (.path f)
  | .ok (a, log) =>
    let err := s.logText logged log
    if p.has .html || !p.has .json then
      let place := reportPlace s.output p
      let w := Report.write a s.tree place s.clock.generated
      let o : Outcome := { err := err ++ s.logText logged w.log, tree := w.tree }
      match w.fault with
      | some f => s.fails logged o (.ofWrite f)
      | none =>
        { o with written := some place }.printing
          ((if p.has .verbose then [countsMarkup a] else []) ++ [writtenMarkup place])
    else s.printsJson a err

/-- The arguments behind the directory, which are too many. -/
def extraFault? (p : Parsed) : Option UsageFault :=
  match p.positional.drop 1 with
  | [] => none
  | more => some (.extraArguments more)

/-- Whether an argument can be a path. -/
def isPath (arg : Option String) : Bool := !arg.any fun a => (Path.ofString a).hasNull

/-- What is wrong with the sorted arguments of a command: the place of the report is a directory, or
there are too many arguments. -/
def fault? (s : Setup) (p : Parsed) : Option UsageFault :=
  match p.value? .output with
  | some o =>
    if o ≠ "" ∧ s.tree.isDir (Path.ofString o) then some (.isDirectory outputOption o)
    else extraFault? p
  | none => extraFault? p

/-- How a run ends because of its sorted arguments, if they do not allow more.  A place of the
report that is a directory is found before a directory that is no path. -/
def refusal? (s : Setup) (topic : Topic) (p : Parsed) : Option Outcome :=
  let output := p.value? .output
  let isNoPath := s.crashes (.path .nullCharacter)
  if !isPath output then some isNoPath
  else
    match s.fault? p with
    | some (.isDirectory o a) => some (s.complains topic (.isDirectory o a))
    | f => if !isPath p.positional.head? then some isNoPath else f.map (s.complains topic)

/-- Runs a command. -/
def runCommand (s : Setup) (logged : Bool) (c : Command) (args : List String) : Outcome :=
  let topic := Topic.command c
  match parse c.options true args with
  | .error f => s.complains topic f
  | .ok p =>
    if p.urgent?.isSome then s.prints topic.help
    else
      match s.refusal? topic p with
      | some o => o
      | none =>
        match s.target p.positional.head? with
        | .error f => s.crashes (.path f)
        | .ok target =>
          match s.tree.isThere? target with
          | .error f => s.crashes (.file f)
          | .ok false => Outcome.complaining { tree := s.tree } (missingText target)
          | .ok true =>
            match c with
            | .analyze => s.analyze logged p target
            | .debug => s.debug logged p target

/-- What an urgent option of the program prints. -/
def urgentText : OptionId → String
  | .version => versionText
  | _ => Topic.program.help

/-- A run with a word that is no command.  A word that looks like an option is read as one first. -/
def unknownCommand (s : Setup) (name : String) (rest : List String) : Outcome :=
  let unknown := s.complains .program
    (.noSuchCommand name (similar (Command.all.map Command.name) name))
  if looksLikeOption name then
    match parse programOptions false (name :: rest) with
    | .error f => s.complains .program f
    | .ok p =>
      match p.urgent? with
      | some o => s.prints (urgentText o)
      | none => unknown
  else unknown

/-- Runs the program. -/
def run (s : Setup) (args : List String) : Outcome :=
  if args.isEmpty then { exit := 2, err := Topic.program.help, tree := s.tree }
  else
    match parse programOptions false args with
    | .error f => s.complains .program f
    | .ok p =>
      match p.urgent? with
      | some o => s.prints (urgentText o)
      | none =>
        match p.positional with
        | [] => s.complains .program .missingCommand
        | name :: rest =>
          match Command.ofName? name with
          | some c => s.runCommand (p.has .verbose) c rest
          | none => s.unknownCommand name rest

/-- The directory that a run is about and the place of its report, when its arguments name a
command. -/
def interest? (output : Option String) (args : List String) : Option (Option String × Path) :=
  match parse programOptions false args with
  | .ok { positional := name :: rest, .. } =>
    match (Command.ofName? name).map fun c => parse c.options true rest with
    | some (.ok p) => some (p.positional.head?, reportPlace output p)
    | _ => none
  | _ => none

end Setup
end CommandLine
end RouteAudit
