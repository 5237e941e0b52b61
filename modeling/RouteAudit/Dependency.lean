import RouteAudit.RouteFile
import RouteAudit.Yaml.AsJson
import RouteAudit.Yaml.Load

/-!
# Dependencies

A table names libraries of interest and, for each of them, the property of route files that shows
that it is in use.  The table is data: the one that is bundled is `Table.bundled`, and `Table.load`
reads another one.

* `Property` — the properties of a route file's summary that a table can speak of;
* `Table.load` — reads a table, entry by entry, and stops at the first fault;
* `detect` — the libraries of a table, each marked when some route file has its property.
-/

set_option autoImplicit false

namespace RouteAudit

open Yaml (Value)

/-- A property of a route file. -/
inductive Property where
  | activityContext
  | blockedNavigation
  | multipleQueryClients
  | unmemoizedRoutes
  | reactRouter
  | shellComponents
  deriving DecidableEq, Repr

namespace Property

/-- The properties. -/
def all : List Property :=
  [.activityContext, .blockedNavigation, .multipleQueryClients, .unmemoizedRoutes, .reactRouter,
    .shellComponents]

/-- The name of a property in a table. -/
def name : Property → String
  | .activityContext => "has_activity_context"
  | .blockedNavigation => "has_blocked_navigation"
  | .multipleQueryClients => "has_multiple_query_clients"
  | .unmemoizedRoutes => "has_unmemoized_routes"
  | .reactRouter => "has_react_router"
  | .shellComponents => "has_shell_components"

/-- The property of a name. -/
def ofName? (s : String) : Option Property := all.find? (·.name == s)

/-- Whether a route file has the property. -/
def holds : Property → RouteSummary → Bool
  | .activityContext => RouteSummary.hasActivityContext
  | .blockedNavigation => RouteSummary.hasBlockedNavigation
  | .multipleQueryClients => RouteSummary.hasMultipleQueryClients
  | .unmemoizedRoutes => RouteSummary.hasUnmemoizedRoutes
  | .reactRouter => RouteSummary.hasReactRouter
  | .shellComponents => RouteSummary.hasShellComponents

/-- A property is found by its name. -/
@[simp] theorem ofName?_name (p : Property) : ofName? p.name = some p := by cases p <;> decide

end Property

/-- A library of interest. -/
structure Dependency where
  /-- Its name, as the table gives it. -/
  name : Value
  /-- The text of its version. -/
  version : String
  /-- Whether routing depends on it. -/
  critical : Bool := false
  /-- Whether some route file uses it. -/
  detected : Bool := false
  /-- Whether the shell replaces parts of it, if the table says so. -/
  shellPatched : Option Bool := none
  /-- The parts that are replaced. -/
  patchedComponents : List Value := []
  /-- The parts of interest. -/
  components : List Value := []
  /-- What is known to go wrong with it; null for nothing. -/
  issue : Value := .null

/-- A line of a table: a library, and the property that shows its use. -/
structure TableEntry where
  dependency : Dependency
  property : Property

/-- Why a table cannot be used. -/
inductive TableFault where
  /-- Its text has no value. -/
  | text (fault : Yaml.Fault)
  /-- It is not a mapping. -/
  | notMapping
  /-- An entry is not a mapping. -/
  | entry (v : Value)
  /-- An entry has no name. -/
  | nameless (entry : Value)
  /-- An entry names no property. -/
  | property (v name : Value)
  /-- A property is given by a value that cannot be compared. -/
  | notComparable (v : Value)
  /-- A value that should have items has none. -/
  | itemless (v : Value)
  /-- A version with an integer of too many digits. -/
  | version

/-- A sentence that shows values, or one about an integer that cannot be written. -/
def orTooManyDigits (sentence : Option String) : String := sentence.getD Yaml.digitLimitMessage

/-- A sentence about the fault. -/
def TableFault.message : TableFault → String
  | .text f => f.message
  | .notMapping => "Dependency table YAML must be a mapping"
  | .entry v => orTooManyDigits do
    return "Dependency entry must be a mapping, got " ++ (← v.quoted?)
  | .nameless v => orTooManyDigits do
    return "Dependency entry is missing a name: " ++ (← v.quoted?)
  | .property v name => orTooManyDigits do
    return "Unknown detect flag " ++ (← v.quoted?) ++ " for dependency " ++ (← name.quoted?)
  | .version => Yaml.digitLimitMessage
  | .notComparable v => "unhashable type: '" ++ v.typeName ++ "'"
  | .itemless v => "'" ++ v.typeName ++ "' object is not iterable"

/-- A table. -/
abbrev Table := List TableEntry

namespace Table

/-- The property that an entry names. -/
def propertyOf (v name : Value) : Except TableFault Property :=
  match v with
  | .text s =>
    match Property.ofName? s with
    | some p => .ok p
    | none => .error (.property v name)
  | .set _ => .error (.property v name)
  | _ =>
    match v.keyFault? with
    | some w => .error (.notComparable w)
    | none => .error (.property v name)

/-- The items of a field, none when the field is absent. -/
def itemsOf (v : Option Value) : Except TableFault (List Value) :=
  match v with
  | none => .ok []
  | some v =>
    match v.items? with
    | some vs => .ok vs
    | none => .error (.itemless v)

/-- The text of the version of an entry, empty when it is absent. -/
def versionOf (v : Option Value) : Except TableFault String :=
  match v with
  | none => .ok ""
  | some v =>
    match v.plain? with
    | some s => .ok s
    | none => .error .version

/-- Reads the fields of an entry. -/
def readFields (entry : Value) (fields : List (Value × Value)) : Except TableFault TableEntry := do
  let field := Value.field? fields
  let name := (field "name").getD .null
  if !name.truth then throw (.nameless entry)
  let property ← propertyOf ((field "detect").getD (.text "")) name
  let version ← versionOf (field "version")
  let patchedComponents ← itemsOf (field "patched_components")
  let components ← itemsOf (field "components")
  let shellPatched :=
    match field "shell_patched" with
    | none => none
    | some .null => none
    | some v => some v.truth
  return {
    dependency :=
      { name
        version
        critical := ((field "critical").map Value.truth).getD false
        shellPatched
        patchedComponents
        components
        issue := (field "issue").getD .null }
    property }

/-- Reads an entry. -/
def readEntry (v : Value) : Except TableFault TableEntry :=
  match v.entries? with
  | some fields => readFields v fields
  | none => .error (.entry v)

/-- Reads the entries of a table. -/
def readEntries : List Value → Except TableFault Table
  | [] => .ok []
  | v :: vs =>
    match readEntry v with
    | .error e => .error e
    | .ok entry => (readEntries vs).map (entry :: ·)

/-- The table that a value stands for. -/
def ofValue (v : Value) : Except TableFault Table :=
  match v.entries? with
  | some fields =>
    match itemsOf (Value.field? fields "dependencies") with
    | .ok vs => readEntries vs
    | .error e => .error e
  | none => .error .notMapping

/-- Reads a table. -/
def load (text : List Char) : Except TableFault Table :=
  match Yaml.load text with
  | .ok v => ofValue v
  | .error e => .error (.text e)

/-- The libraries that matter to every project. -/
def bundled : Table := [
  { dependency :=
      { name := .text "react-router"
        version := "6.x"
        critical := true
        shellPatched := some true
        patchedComponents := [.text "Switch -> ShellSwitch"] }
    property := .reactRouter },
  { dependency :=
      { name := .text "react-router-dom"
        version := "6.x"
        critical := true
        components :=
          ["BrowserRouter", "Routes", "Route", "Navigate", "useNavigate", "useLocation"].map .text }
    property := .reactRouter },
  { dependency :=
      { name := .text "@tanstack/react-query"
        version := "5.x"
        issue := .text "Multiple QueryClient instances may cause state loss" }
    property := .multipleQueryClients },
  { dependency :=
      { name := .text "capitalrx-shell"
        version := "latest"
        critical := true
        components :=
          ["Shell", "AsyncWrapper", "useModulePathResolver", "ShellSwitch"].map .text }
    property := .shellComponents }]

/-- The libraries of a table, each marked when some route file has its property. -/
def detect (table : Table) (summaries : List RouteSummary) : List Dependency :=
  table.map fun e => { e.dependency with detected := summaries.any e.property.holds }

end Table

namespace Dependency

/-- A list of values as a member, left out when it is empty. -/
def listMember (key : String) (vs : List Value) : Except Yaml.ReportFault (List (String × Json)) :=
  if vs.isEmpty then .ok []
  else
    match Value.jsonItems vs with
    | .ok js => .ok [(key, .arr js)]
    | .error e => .error e

/-- The members of a library in a report. -/
def members (d : Dependency) : Except Yaml.ReportFault (List (String × Json)) := do
  let patched ← listMember "patchedComponents" d.patchedComponents
  let components ← listMember "components" d.components
  let issue ←
    match d.issue with
    | .null => pure []
    | v => (fun j => [("issue", j)]) <$> v.json
  let shell :=
    match d.shellPatched with
    | some b => [("shellPatched", Json.bool b)]
    | none => []
  return [("version", .str d.version), ("critical", .bool d.critical)] ++ shell ++ patched
    ++ components ++ issue ++ [("detected", .bool d.detected)]

/-- Libraries by name: a name that comes up again keeps its place, and the last library counts. -/
def byName (ds : List Dependency) : List (Value × Dependency) :=
  ds.foldl (fun acc d => Value.put acc d.name d) []

/-- The members of the object of all libraries. -/
def allMembers : List (Value × Dependency) → Except Yaml.ReportFault (List (String × Json))
  | [] => .ok []
  | (k, d) :: rest =>
    match k.keyText with
    | .error e => .error e
    | .ok t =>
      match d.members with
      | .error e => .error e
      | .ok ms => (allMembers rest).map ((t, .obj ms) :: ·)

/-- The object of all libraries by name.  A name that cannot be compared is a fault. -/
def jsonByName (ds : List Dependency) : Except Yaml.ReportFault Json :=
  match ds.findSome? fun d => d.name.keyFault? with
  | some v => .error (.notComparable v)
  | none => (allMembers (byName ds)).map .obj

end Dependency
end RouteAudit
