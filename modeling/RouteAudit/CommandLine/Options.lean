import RouteAudit.CommandLine.Similar
import RouteAudit.Text.Quoted

/-!
# Options

The arguments of a command are options and positional arguments.  An option has a long name and
perhaps a short one; some take a value, in the same argument or in the next one.  Several short
options may share one dash.  Behind two dashes everything is positional.

`parse` sorts the arguments of a command out, or says what is wrong with them.
-/

set_option autoImplicit false

namespace RouteAudit
namespace CommandLine

/-- The options of all commands. -/
inductive OptionId where
  | version
  | verbose
  | json
  | html
  | output
  | help
  deriving DecidableEq, Repr

/-- What there is to know about an option of a command. -/
structure OptionSpec where
  id : OptionId
  long : String
  short : Option Char := none
  /-- What stands for its value in the help, if it takes one. -/
  value : Option String := none
  /-- What it does. -/
  about : String

/-- What is wrong with the arguments of a command. -/
inductive UsageFault where
  | noSuchOption (name : String) (similar : List String)
  | noSuchCommand (name : String) (similar : List String)
  | missingCommand
  | needsValue (name : String)
  | takesNoValue (name : String)
  | extraArguments (args : List String)
  /-- The value of an option that names a file is a directory. -/
  | isDirectory (spec : OptionSpec) (value : String)

/-- The words that may have been meant. -/
def didYouMean : List String → String
  | [] => ""
  | [w] => " Did you mean " ++ Text.quoted w ++ "?"
  | ws =>
    let sorted := ws.mergeSort fun a b => decide (a ≤ b)
    " (Did you mean one of: " ++ ", ".intercalate (sorted.map Text.quoted) ++ "?)"

/-- A sentence about the fault. -/
def UsageFault.message : UsageFault → String
  | .noSuchOption name ws =>
    "No such option " ++ Text.quoted name ++ "." ++ didYouMean ws
  | .noSuchCommand name ws =>
    "No such command " ++ Text.quoted name ++ "." ++ didYouMean ws
  | .missingCommand => "Missing command."
  | .needsValue name => "Option " ++ Text.quoted name ++ " requires an argument."
  | .takesNoValue name => "Option " ++ Text.quoted name ++ " does not take a value."
  | .extraArguments args =>
    "Got unexpected extra " ++ (if args.length = 1 then "argument" else "arguments") ++ " ("
      ++ " ".intercalate args ++ ")"
  | .isDirectory spec value =>
    let names := spec.long :: (spec.short.map fun c => "-" ++ String.singleton c).toList
    "Invalid value for " ++ " / ".intercalate (names.map fun n => "'" ++ n ++ "'") ++ ": File "
      ++ Text.quoted value ++ " is a directory."

/-- Whether the usage of the command is shown with the fault. -/
def UsageFault.showsUsage : UsageFault → Bool
  | .needsValue _ => false
  | .takesNoValue _ => false
  | _ => true

/-- The arguments of a command, sorted out. -/
structure Parsed where
  /-- The options in the order in which they were given, with their values. -/
  options : List (OptionId × String) := []
  positional : List String := []

namespace Parsed

/-- Whether an option was given. -/
def has (p : Parsed) (id : OptionId) : Bool := p.options.any (·.1 = id)

/-- The last value of an option. -/
def value? (p : Parsed) (id : OptionId) : Option String :=
  (p.options.filter (·.1 = id)).getLast?.map Prod.snd

/-- The first option that is acted upon before all others, if there is one. -/
def urgent? (p : Parsed) : Option OptionId :=
  (p.options.find? fun o => o.1 = .help || o.1 = .version).map Prod.fst

end Parsed

/-- What an argument with options says: the options, and the name of the last one if its value is
still to come. -/
structure ReadOption where
  options : List (OptionId × String) := []
  pending : Option (OptionId × String) := none

/-- Reads short options that share a dash. -/
def readShort (specs : List OptionSpec) : List Char → Except UsageFault ReadOption
  | [] => .ok {}
  | c :: cs =>
    let name := "-" ++ String.singleton c
    match specs.find? fun s => s.short = some c with
    | none => .error (.noSuchOption name [])
    | some spec =>
      if spec.value.isSome then
        if cs.isEmpty then .ok { pending := some (spec.id, name) }
        else .ok { options := [(spec.id, String.ofList cs)] }
      else
        match readShort specs cs with
        | .ok r => .ok { r with options := (spec.id, "") :: r.options }
        | .error e => .error e

/-- Reads an argument that begins with a dash. -/
def readOption (specs : List OptionSpec) (arg : String) : Except UsageFault ReadOption :=
  let name := String.ofList (arg.toList.takeWhile (· ≠ '='))
  let attached := arg.toList.dropWhile (· ≠ '=')
  match specs.find? fun s => s.long = name with
  | some spec =>
    match spec.value.isSome, attached with
    | true, [] => .ok { pending := some (spec.id, name) }
    | true, _ :: value => .ok { options := [(spec.id, String.ofList value)] }
    | false, [] => .ok { options := [(spec.id, "")] }
    | false, _ :: _ => .error (.takesNoValue name)
  | none =>
    match arg.toList with
    | '-' :: '-' :: _ => .error (.noSuchOption name (similar (specs.map OptionSpec.long) name))
    | _ => readShort specs arg.toList.tail

/-- Whether an argument is read as options. -/
def looksLikeOption (arg : String) : Bool :=
  match arg.toList with
  | '-' :: _ :: _ => true
  | _ => false

/-- Sorts arguments out behind others.  Where options may not come behind positional arguments,
`mixed` does not hold. -/
def parseFrom (specs : List OptionSpec) (mixed : Bool) (acc : Parsed) :
    List String → Except UsageFault Parsed
  | [] => .ok acc
  | arg :: rest =>
    if arg = "--" then .ok { acc with positional := acc.positional ++ rest }
    else if looksLikeOption arg then
      match readOption specs arg with
      | .error e => .error e
      | .ok r =>
        let acc := { acc with options := acc.options ++ r.options }
        match r.pending with
        | none => parseFrom specs mixed acc rest
        | some (id, name) =>
          match rest with
          | [] => .error (.needsValue name)
          | value :: rest =>
            parseFrom specs mixed { acc with options := acc.options ++ [(id, value)] } rest
    else if mixed then
      parseFrom specs mixed { acc with positional := acc.positional ++ [arg] } rest
    else .ok { acc with positional := acc.positional ++ arg :: rest }

/-- Sorts the arguments of a command out. -/
def parse (specs : List OptionSpec) (mixed : Bool) (args : List String) :
    Except UsageFault Parsed :=
  parseFrom specs mixed {} args

end CommandLine
end RouteAudit
